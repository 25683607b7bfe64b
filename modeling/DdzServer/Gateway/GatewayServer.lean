import DdzServer.Util.KvCodec
import Mathlib.Data.List.DropRight

/-!
# The gateway's connections

`HandleGatewayConnection` of `gateway/gateway_server.cpp` up to where a request is handed on, and
the three tables of all connections: who is banned, when an address made its last requests, and how
many WebSocket sessions it has. The clock does not move while a connection is looked at.
-/

namespace DdzServer

/-- The limits that the configuration loader lets through. -/
structure GatewaySecurityConfig where
  allowedOrigins : List CppString := []
  maxWsConnectionsPerIp : ℤ := 64
  maxHttpQpsPerIp : ℤ := 30
  banSecondsOnAbuse : ℤ := 30
  trustXForwardedFor : Bool := false
  ws_bounds : 0 < maxWsConnectionsPerIp ∧ maxWsConnectionsPerIp < 2 ^ 31 := by decide
  http_bounds : 0 < maxHttpQpsPerIp ∧ maxHttpQpsPerIp < 2 ^ 31 := by decide

inductive HttpMethod where
  | get | post | options | other
  deriving DecidableEq

/-- A request as it was read. A header that is missing is empty, but for the authorization. -/
structure HttpRequest where
  method : HttpMethod := .get
  target : CppString
  origin : CppString := []
  xForwardedFor : CppString := []
  authorization : Option CppString := none
  isUpgrade : Bool := false

structure RouteInfo where
  path : CppString
  query : KvMap := ∅

/-- `ParseRouteInfo`. -/
def parseRouteInfo (target : CppString) : RouteInfo :=
  match target.dropWhile (· != 63) with
  | []         => { path := target }
  | _ :: query =>
    { path := target.takeWhile (· != 63), query := (query.splitOn 38).foldl addKvItem ∅ }

/-- A space or a tab. -/
def isBlank (b : UInt8) : Bool := b == 32 || b == 9

/-- `NormalizeOrigin`. -/
def normalizeOrigin (origin : CppString) : CppString :=
  let origin := origin.rdropWhile isBlank
  if origin.getLast? = some 47 then origin.dropLast else origin

/-- `ClientIpFromXForwardedFor`. -/
def clientIpFromXForwardedFor (xff : CppString) : CppString :=
  ((xff.takeWhile (· != 44)).dropWhile isBlank).rdropWhile isBlank

namespace GatewaySecurityConfig

def isOriginAllowed (config : GatewaySecurityConfig) (origin : CppString) : Bool :=
  !origin.isEmpty && config.allowedOrigins.contains (normalizeOrigin origin)

end GatewaySecurityConfig

/-- The tables of the gateway. -/
structure GatewayServer where
  wsConnByIp : UnorderedMap CppString ℤ := ∅
  httpRateByIp : UnorderedMap CppString (List ℤ) := ∅
  bannedUntilMsByIp : UnorderedMap CppString ℤ := ∅

/-- What becomes of a connection. -/
inductive GatewayHandling where
  | rejected (status : ℕ) (reason : String)
  | noContent
  /-- `RunWebSocketProxy`, for a client that has a slot -/
  | webSocketProxy (clientIp : CppString)
  | loginTicket
  | sessionRefresh
  | notFound
  deriving DecidableEq

namespace GatewayServer

open UnorderedMap

variable (g : GatewayServer) (config : GatewaySecurityConfig) (clientIp : CppString) (nowMs : ℤ)

def isIpBanned : GatewayServer × Bool :=
  match g.bannedUntilMsByIp.lookup clientIp with
  | none       => (g, false)
  | some bannedUntil =>
    if bannedUntil ≤ nowMs then
      ({ g with bannedUntilMsByIp := Finmap.erase clientIp g.bannedUntilMsByIp }, false)
    else
      (g, true)

def banIp : GatewayServer :=
  { g with
    bannedUntilMsByIp :=
      Finmap.insert clientIp (nowMs + config.banSecondsOnAbuse * 1000) g.bannedUntilMsByIp }

/-- The cast of the size to 32 bits is left out: a window is never longer than the limit. -/
def checkAndConsumeHttpQps : GatewayServer × Bool :=
  let window := (at' g.httpRateByIp clientIp []).dropWhile fun t => 1000 ≤ nowMs - t
  if config.maxHttpQpsPerIp ≤ window.length then
    ({ g with httpRateByIp := Finmap.insert clientIp window g.httpRateByIp }, false)
  else
    ({ g with httpRateByIp := Finmap.insert clientIp (window ++ [nowMs]) g.httpRateByIp }, true)

def tryAcquireWsSlot : GatewayServer × Bool :=
  let count := at' g.wsConnByIp clientIp 0
  if config.maxWsConnectionsPerIp ≤ count then
    ({ g with wsConnByIp := touch g.wsConnByIp clientIp 0 }, false)
  else
    ({ g with wsConnByIp := Finmap.insert clientIp (count + 1) g.wsConnByIp }, true)

def releaseWsSlot : GatewayServer :=
  match g.wsConnByIp.lookup clientIp with
  | none       => g
  | some count =>
    if count - 1 ≤ 0 then { g with wsConnByIp := Finmap.erase clientIp g.wsConnByIp }
    else { g with wsConnByIp := Finmap.insert clientIp (count - 1) g.wsConnByIp }

/-- The address that the limits go by. -/
def clientIpOf (config : GatewaySecurityConfig) (peerIp : CppString) (request : HttpRequest) :
    CppString :=
  let xffIp := clientIpFromXForwardedFor request.xForwardedFor
  if config.trustXForwardedFor ∧ xffIp ≠ [] then xffIp else peerIp

/-- `HandleGatewayConnection`. -/
def handleGatewayConnection (peerIp : CppString) (request : HttpRequest) :
    GatewayServer × GatewayHandling :=
  let clientIp := clientIpOf config peerIp request
  let path := (parseRouteInfo request.target).path
  let hasOrigin := !request.origin.isEmpty
  let originAllowed := config.isOriginAllowed request.origin
  if hasOrigin ∧ ¬ originAllowed then (g, .rejected 403 "origin_not_allowed")
  else
    let (g, banned) := g.isIpBanned clientIp nowMs
    if banned then (g, .rejected 429 "ip_banned")
    else if request.method = .options then (g, .noContent)
    else if request.isUpgrade ∧ path = str "/ws/game" then
      if ¬ hasOrigin ∨ ¬ originAllowed then (g, .rejected 403 "origin_not_allowed")
      else
        let (g, acquired) := g.tryAcquireWsSlot config clientIp
        if acquired then (g, .webSocketProxy clientIp)
        else (g.banIp config clientIp nowMs, .rejected 429 "ws_conn_limited")
    else
      let (g, allowed) := g.checkAndConsumeHttpQps config clientIp nowMs
      if ¬ allowed then (g.banIp config clientIp nowMs, .rejected 429 "http_qps_limited")
      else if request.method = .post ∧ path = str "/api/auth/login-ticket" then (g, .loginTicket)
      else if request.method = .get ∧ path = str "/api/session/refresh" then (g, .sessionRefresh)
      else (g, .notFound)

end GatewayServer

end DdzServer
