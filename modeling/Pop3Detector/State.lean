import Mathlib.Data.Fintype.Basic

namespace Pop3Detector.State

/-- `POP3ClientState`. -/
inductive POP3ClientState
  | auth | trans | stlsCmd
  deriving DecidableEq, Repr

/-- `ClientPOP3Data`. Its `auth` field is never read or written and is left out. -/
structure ClientPOP3Data where
  username : Option (List UInt8)
  state : POP3ClientState
  setFlags : Bool
  detected : Bool
  gotUser : Bool
  deriving DecidableEq

/-- `POP3State`. -/
inductive POP3State
  | connect | response | «continue»
  deriving DecidableEq, Repr

/-- The static vendor strings `pd->vendor` can point to. -/
inductive Vendor
  | cppop | cubicCircle | interMail | postOffice
  deriving DecidableEq, Repr

/-- `RNAServiceSubtype`; the `next` links are the list the entries sit in. -/
structure RNAServiceSubtype where
  service : List UInt8
  version : Option (List UInt8)
  deriving DecidableEq

/-- `ServicePOP3Data`. The version buffer has `MAX_VERSION_SIZE = 64` bytes; `count` is
`unsigned`, so it counts modulo 2^32. -/
structure ServicePOP3Data where
  state : POP3State
  count : Nat
  vendor : Option Vendor
  version : Fin 64 → UInt8
  subtype : List RNAServiceSubtype
  error : Bool
  deriving DecidableEq

/-- `POP3DetectorData`, the per-flow record both detectors share. -/
structure POP3DetectorData where
  client : ClientPOP3Data
  server : ServicePOP3Data
  needContinue : Bool
  deriving DecidableEq

/-- The record both detectors allocate: zeroed by `snort_calloc`, with `POP3_STATE_CONNECT`
and `POP3_CLIENT_STATE_AUTH`. -/
def POP3DetectorData.init : POP3DetectorData :=
  { client := { username := none, state := .auth, setFlags := false, detected := false,
                gotUser := false }
    server := { state := .connect, count := 0, vendor := none, version := fun _ => 0,
                subtype := [], error := false }
    needContinue := false }

/-- `count++` on an `unsigned` counter. -/
def incr (n : Nat) : Nat := (n + 1) % 2 ^ 32

/-- The C string held in the version buffer, up to its first NUL. -/
def versionString (version : Fin 64 → UInt8) : List UInt8 :=
  (List.ofFn version).takeWhile (· != 0)

/-- `APP_ID_POP3` and `APP_ID_POP3S`. -/
inductive AppId
  | pop3 | pop3s
  deriving DecidableEq, Repr

/-- The session flags the detectors set, clear or test. -/
inductive Flag
  | clientGetsServerPackets | clientDetected | serviceDetected | «continue» | encrypted
  deriving DecidableEq, Repr

/-- The `appid_stats` counters the detectors increment. -/
inductive Stat
  | pop3Clients | pop3sClients | popFlows
  deriving DecidableEq, Repr

/-- A call of a detector into the session or the discovery framework. The packet and the
direction passed along with some of them are left out. -/
inductive Call
  | setSessionFlags (f : Flag)
  | clearSessionFlags (f : Flag)
  | addApp (clientAppId payloadAppId : AppId)
  | addUser (username : List UInt8) (appId : AppId) (success : Bool)
  | addServiceConsumeSubtype (appId : AppId) (vendor : Option Vendor)
      (version : Option (List UInt8)) (subtype : List RNAServiceSubtype)
  | failService
  | serviceInprocess
  | stat (s : Stat)
  deriving DecidableEq

/-- The calls on which the framework marks the service detected. -/
def Call.reportsService : Call → Bool
  | .addServiceConsumeSubtype .. => true
  | _ => false

/-- The calls that only change session flags or statistics. -/
def Call.quiet : Call → Bool
  | .setSessionFlags _ | .clearSessionFlags _ | .stat _ | .serviceInprocess => true
  | _ => false

/-- The arguments of an `add_user` call. -/
def Call.addUserArgs : Call → Option (List UInt8 × AppId × Bool)
  | .addUser username appId success => some (username, appId, success)
  | _ => none

/-- The `add_user` calls among a sequence of calls. -/
def userReports (calls : List Call) : List (List UInt8 × AppId × Bool) :=
  calls.filterMap Call.addUserArgs

/-- `APPID_INPROCESS`, `APPID_SUCCESS` and `APPID_NOMATCH`. -/
inductive Status
  | inprocess | success | nomatch
  deriving DecidableEq, Repr

/-- `APP_ID_FROM_INITIATOR` and `APP_ID_FROM_RESPONDER`. -/
inductive Direction
  | fromInitiator | fromResponder
  deriving DecidableEq, Repr

theorem versionString_length_le {version : Fin 64 → UInt8} (h : version 63 = 0) :
    (versionString version).length ≤ 63 := by
  unfold versionString
  have hp := List.takeWhile_prefix (fun c : UInt8 => c != 0) (l := List.ofFn version)
  have hlen : (List.ofFn version).length = 64 := List.length_ofFn _
  have hle : ((List.ofFn version).takeWhile (· != 0)).length ≤ 64 := hp.length_le.trans_eq hlen
  refine Nat.le_of_lt_succ (lt_of_le_of_ne hle fun heq => ?_)
  have h63 : version 63 ∈ (List.ofFn version).takeWhile (· != 0) := by
    rw [hp.eq_of_length (heq.trans hlen.symm)]
    exact (List.mem_ofFn _ _).mpr ⟨63, rfl⟩
  have := List.mem_takeWhile_imp h63
  rw [h] at this
  exact absurd this (by decide)

theorem versionString_ne_zero {version : Fin 64 → UInt8} {c : UInt8}
    (h : c ∈ versionString version) : c ≠ 0 := by
  simpa using List.mem_takeWhile_imp h

theorem incr_le (n : Nat) : incr n ≤ n + 1 := Nat.mod_le _ _

theorem Call.quiet_spec {c : Call} (h : c.quiet = true) :
    c.addUserArgs = none ∧ c.reportsService = false ∧ c ≠ .failService ∧ ∀ a b, c ≠ .addApp a b := by
  cases c <;> simp_all [Call.quiet, Call.addUserArgs, Call.reportsService]

theorem Call.addUserArgs_of_reportsService {c : Call} (h : c.reportsService = true) :
    c.addUserArgs = none := by
  cases c <;> simp_all [Call.reportsService, Call.addUserArgs]

theorem userReports_eq_nil {calls : List Call} (h : ∀ c ∈ calls, c.addUserArgs = none) :
    userReports calls = [] :=
  List.filterMap_eq_nil_iff.mpr h

@[simp] theorem userReports_nil : userReports [] = [] := rfl

@[simp] theorem userReports_append (c c' : List Call) :
    userReports (c ++ c') = userReports c ++ userReports c' := List.filterMap_append _ _ _

@[simp] theorem userReports_cons (c : Call) (cs : List Call) :
    userReports (c :: cs) = (c.addUserArgs).toList ++ userReports cs := by
  cases h : c.addUserArgs <;> simp [userReports, List.filterMap_cons, h]

end Pop3Detector.State
