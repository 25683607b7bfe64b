import Mathlib.Data.List.Basic
import Mathlib.Logic.Function.Basic

/-!
# Messages that are received in order

Every recipient has an inbox: a message waits there until the older ones have been received. What a
recipient makes of a message is a function of its state, so what it will be when it has received
everything is known at any time.
-/

namespace Inbox

variable {κ μ γ : Type} [DecidableEq κ]

/-- What each recipient has received, what waits for it, and its state. -/
structure Mail (κ μ γ : Type) where
  received : κ → List μ
  inbox : κ → List μ
  recipients : κ → γ

namespace Mail

variable (m : Mail κ μ γ) {m' : Mail κ μ γ} (handle : γ → μ → γ) {c : κ}

/-- All messages that were sent to a recipient. -/
def sent {κ : Type} (m : Mail κ μ γ) (c : κ) : List μ := m.received c ++ m.inbox c

/-- A message is sent. -/
def send (c : κ) (msg : μ) : Mail κ μ γ :=
  { m with inbox := Function.update m.inbox c (m.inbox c ++ [msg]) }

/-- The oldest message of an inbox is received. -/
def receive (c : κ) : Option (Mail κ μ γ) :=
  match m.inbox c with
  | []          => none
  | msg :: rest =>
    some {
      received := Function.update m.received c (m.received c ++ [msg])
      inbox := Function.update m.inbox c rest
      recipients := Function.update m.recipients c (handle (m.recipients c) msg) }

/-- A recipient changes its state by itself. -/
def change (c : κ) (f : γ → γ) : Mail κ μ γ :=
  { m with recipients := Function.update m.recipients c (f (m.recipients c)) }

/-- The state of a recipient when it has received everything. -/
def eventual {κ : Type} (m : Mail κ μ γ) (handle : γ → μ → γ) (c : κ) : γ :=
  (m.inbox c).foldl handle (m.recipients c)

lemma inbox_send (c d : κ) (msg : μ) :
    (m.send c msg).inbox d = if d = c then m.inbox d ++ [msg] else m.inbox d := by
  simp only [send, Function.update_apply]
  split_ifs with hd
  · rw [hd]
  · rfl

@[simp] lemma recipients_send (c : κ) (msg : μ) : (m.send c msg).recipients = m.recipients := rfl

lemma sent_send (c d : κ) (msg : μ) :
    (m.send c msg).sent d = if d = c then m.sent d ++ [msg] else m.sent d := by
  rw [sent, inbox_send]
  split_ifs
  · exact (List.append_assoc _ _ _).symm
  · rfl

/-- A recipient handles the messages that are sent last after all others. -/
lemma eventual_send (c d : κ) (msg : μ) :
    (m.send c msg).eventual handle d =
      if d = c then handle (m.eventual handle d) msg else m.eventual handle d := by
  rw [eventual, inbox_send, recipients_send]
  split_ifs
  · rw [List.foldl_append]
    rfl
  · rfl

@[simp] lemma inbox_change (c : κ) (f : γ → γ) : (m.change c f).inbox = m.inbox := rfl

@[simp] lemma sent_change (c d : κ) (f : γ → γ) : (m.change c f).sent d = m.sent d := rfl

lemma recipients_change (c d : κ) (f : γ → γ) :
    (m.change c f).recipients d = if d = c then f (m.recipients d) else m.recipients d := by
  simp only [change, Function.update_apply]
  split_ifs with hd
  · rw [hd]
  · rfl

/-- A change that the messages on the way do not see. -/
lemma eventual_change {f : γ → γ} (h : ∀ msg ∈ m.inbox c, ∀ x, handle (f x) msg = f (handle x msg))
    (d : κ) :
    (m.change c f).eventual handle d =
      if d = c then f (m.eventual handle d) else m.eventual handle d := by
  rw [eventual, inbox_change, recipients_change]
  split_ifs with hd
  · rw [← hd] at h
    rw [eventual]
    generalize m.recipients d = x at *
    generalize m.inbox d = l at h
    induction l generalizing x with
    | nil => rfl
    | cons msg l ih =>
      obtain ⟨hmsg, hl⟩ := List.forall_mem_cons.mp h
      rw [List.foldl_cons, hmsg, ih _ hl, List.foldl_cons]
  · rfl

variable {m handle}

/-- What it is to receive a message. -/
lemma receive_spec (h : m.receive handle c = some m') :
    ∃ msg rest, m.inbox c = msg :: rest ∧
      m'.inbox = Function.update m.inbox c rest ∧
      m'.received = Function.update m.received c (m.received c ++ [msg]) ∧
      m'.recipients = Function.update m.recipients c (handle (m.recipients c) msg) := by
  rw [receive] at h
  split at h
  · cases h
  next msg rest hinbox =>
    cases h
    exact ⟨msg, rest, hinbox, rfl, rfl, rfl⟩

/-- Receiving changes nothing about what was sent. -/
lemma sent_receive (h : m.receive handle c = some m') (d : κ) : m'.sent d = m.sent d := by
  obtain ⟨msg, rest, hinbox, hinbox', hreceived, -⟩ := receive_spec h
  rw [sent, sent, hinbox', hreceived]
  by_cases hd : d = c
  · subst hd
    simp [hinbox]
  · simp [hd]

/-- Nor about what becomes of a recipient. -/
lemma eventual_receive (h : m.receive handle c = some m') (d : κ) :
    m'.eventual handle d = m.eventual handle d := by
  obtain ⟨msg, rest, hinbox, hinbox', -, hrecipients⟩ := receive_spec h
  rw [eventual, eventual, hinbox', hrecipients]
  by_cases hd : d = c
  · subst hd
    simp [hinbox]
  · simp [hd]

end Mail

end Inbox
