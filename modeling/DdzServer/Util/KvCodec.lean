import DdzServer.Util.CppString
import DdzServer.Lib.UnorderedMap

/-!
# The `key=value;key=value` bodies of packets

The format has no escapes. Fields whose texts have no separator are read back as they are, and
what is read from any body has no separator.
-/

namespace DdzServer

/-- The fields of a body; of equal keys the last one counts. -/
abbrev KvMap := UnorderedMap CppString CppString

/-- One item of a body: skipped when it has no `=`, and split at the first one otherwise. -/
def addKvItem (kv : KvMap) (item : CppString) : KvMap :=
  match item.dropWhile (· != 61) with
  | []         => kv
  | _ :: value => Finmap.insert (item.takeWhile (· != 61)) value kv

/-- `ParseKvBody`. -/
def parseKvBody (body : CppString) : KvMap := (body.splitOn 59).foldl addKvItem ∅

/-- `BuildKvBody`. -/
def buildKvBody (fields : List (CppString × CppString)) : CppString :=
  List.intercalate (str ";") (fields.map fun kv => kv.1 ++ str "=" ++ kv.2)

/-- Fields that a body can carry: distinct keys, and no separator in any text. -/
structure KvFields where
  fields : List (CppString × CppString)
  nodup_keys : (fields.map Prod.fst).Nodup
  key_clean : ∀ f ∈ fields, 59 ∉ f.1 ∧ 61 ∉ f.1
  value_clean : ∀ f ∈ fields, 59 ∉ f.2

/-! ### What is read -/

lemma addKvItem_item {key : CppString} (hkey : 61 ∉ key) (value : CppString) (kv : KvMap) :
    addKvItem kv (key ++ str "=" ++ value) = Finmap.insert key value kv := by
  have hne : ∀ b ∈ key, (b != 61) = true := by
    intro b hb
    simp only [bne_iff_ne, ne_eq]
    rintro rfl
    exact hkey hb
  have hdrop : (key ++ str "=" ++ value).dropWhile (· != 61) = 61 :: value := by
    rw [List.append_assoc, List.dropWhile_append_of_pos hne]
    rfl
  have htake : (key ++ str "=" ++ value).takeWhile (· != 61) = key := by
    rw [List.append_assoc, List.takeWhile_append_of_pos hne]
    exact List.append_nil key
  simp only [addKvItem, hdrop, htake]

/-- What an item adds is a part of the item. -/
lemma lookup_addKvItem {kv : KvMap} {item k v : CppString}
    (h : (addKvItem kv item).lookup k = some v) : kv.lookup k = some v ∨ v <:+ item := by
  unfold addKvItem at h
  split at h
  next => exact Or.inl h
  next b value hdrop =>
    rw [UnorderedMap.lookup_insert] at h
    split_ifs at h
    · obtain rfl := Option.some.inj h
      refine Or.inr ((List.suffix_cons b value).trans ?_)
      rw [← hdrop]
      exact List.dropWhile_suffix _
    · exact Or.inl h

/-- The pieces between separators have no separator. -/
lemma not_mem_of_mem_splitOn {sep : UInt8} {s piece : CppString} (h : piece ∈ s.splitOn sep) :
    sep ∉ piece := by
  induction s generalizing piece with
  | nil =>
    obtain rfl : piece = [] := by simpa using h
    exact List.not_mem_nil
  | cons b s ih =>
    rw [List.splitOn_cons_eq_if_modifyHead] at h
    split_ifs at h with hb
    · rcases List.mem_cons.mp h with rfl | h
      · exact List.not_mem_nil
      · exact ih h
    · obtain ⟨first, more, hsplit⟩ := List.exists_cons_of_ne_nil (List.splitOn_ne_nil sep s)
      rw [hsplit, List.modifyHead_cons] at h
      rcases List.mem_cons.mp h with rfl | h
      · have hfirst : sep ∉ first := ih (by rw [hsplit]; exact List.mem_cons_self)
        have hne : sep ≠ b := fun heq => hb (by simp [heq])
        simp [hne, hfirst]
      · exact ih (by rw [hsplit]; exact List.mem_cons_of_mem _ h)

/-- No value that is read has a separator. -/
lemma not_mem_of_lookup_parseKvBody {body k v : CppString}
    (h : (parseKvBody body).lookup k = some v) : 59 ∉ v := by
  have hitems : ∀ items : List CppString, (∀ item ∈ items, 59 ∉ item) → ∀ kv : KvMap,
      (items.foldl addKvItem kv).lookup k = some v → kv.lookup k = some v ∨ 59 ∉ v := by
    intro items
    induction items with
    | nil => exact fun _ kv h => Or.inl h
    | cons item items ih =>
      intro hclean kv h
      obtain ⟨hitem, hclean⟩ := List.forall_mem_cons.mp hclean
      rcases ih hclean (addKvItem kv item) h with h | h
      · exact (lookup_addKvItem h).imp_right fun hv hmem => hitem (hv.subset hmem)
      · exact Or.inr h
  have h := hitems _ (fun item => not_mem_of_mem_splitOn) ∅ h
  simpa using h

/-- A field added at the end of a body. -/
lemma buildKvBody_append_singleton (fields : List (CppString × CppString)) (key value : CppString) :
    buildKvBody (fields ++ [(key, value)]) =
      (if fields = [] then [] else buildKvBody fields ++ str ";") ++ key ++ str "=" ++ value := by
  induction fields with
  | nil => simp [buildKvBody]
  | cons f fields ih =>
    rw [if_neg (List.cons_ne_nil _ _)]
    cases fields with
    | nil => simp [buildKvBody, List.intercalate_cons_cons]
    | cons g fields =>
      rw [if_neg (List.cons_ne_nil _ _)] at ih
      simp only [buildKvBody, List.cons_append, List.map_cons, List.intercalate_cons_cons] at ih ⊢
      rw [ih]
      simp

namespace KvFields

/-- The body that carries the fields. -/
def body (F : KvFields) : CppString := buildKvBody F.fields

def keys (F : KvFields) : List CppString := F.fields.map Prod.fst

/-- The fields are read back from their body. -/
theorem lookup_parseKvBody (F : KvFields) (k v : CppString) :
    (parseKvBody F.body).lookup k = some v ↔ (k, v) ∈ F.fields := by
  have hparse : parseKvBody F.body = F.fields.foldl (fun kv f => Finmap.insert f.1 f.2 kv) ∅ := by
    by_cases hnil : F.fields = []
    · rw [body, hnil]
      rfl
    · have hclean : ∀ item ∈ F.fields.map fun kv => kv.1 ++ str "=" ++ kv.2, 59 ∉ item := by
        intro item hitem
        obtain ⟨f, hf, rfl⟩ := List.mem_map.mp hitem
        simp [str, (F.key_clean f hf).1, F.value_clean f hf]
      have hsplit : F.body.splitOn 59 = F.fields.map fun kv => kv.1 ++ str "=" ++ kv.2 :=
        List.splitOn_intercalate 59 hclean (by simpa using hnil)
      rw [parseKvBody, hsplit, List.foldl_map]
      exact List.foldl_ext _ _ _ fun kv f hf => addKvItem_item (F.key_clean f hf).2 f.2 kv
  rw [hparse, UnorderedMap.lookup_foldl_insert_pairs F.nodup_keys]
  simp

lemma lookup_parseKvBody_eq_none (F : KvFields) (k : CppString) :
    (parseKvBody F.body).lookup k = none ↔ k ∉ F.keys := by
  rw [Option.eq_none_iff_forall_ne_some, keys]
  simp [lookup_parseKvBody]

lemma body_eq_nil (F : KvFields) : F.body = [] ↔ F.fields = [] := by
  constructor
  · intro h
    by_contra hne
    obtain ⟨f, fields, hf⟩ := List.exists_cons_of_ne_nil hne
    cases fields with
    | nil => simp [body, buildKvBody, hf, str] at h
    | cons g fields =>
      simp [body, buildKvBody, hf, str, List.intercalate_cons_cons] at h
  · intro h
    simp [body, buildKvBody, h]

end KvFields

end DdzServer
