import Mathlib.Tactic.Common

/-! The RPC server's command-line parameters (`crates/node/src/cli/rpc.rs`): where the
user and admin listeners bind, which origins CORS allows, and how batches are
limited. The admin listener is public only when the RPC is external and the methods
are `unsafe`; it is never more public than the user listener. -/
namespace Madara.Node

/-- `RpcEndpoints`; `unrestricted` is the source's `Unsafe`. -/
inductive RpcEndpoints
  | auto
  | safe
  | unrestricted
  deriving DecidableEq

inductive Cors
  | all
  | list (origins : List String)
  deriving DecidableEq

/-- The loop of `Cors::from_str` over the parts still to read: it stops at `all` or `*`. -/
def corsLoop : List String → List String → Bool × List String
  | [], origins => (false, origins)
  | part :: rest, origins =>
    if part = "all" ∨ part = "*" then (true, origins) else corsLoop rest (origins ++ [part])

/-- Whether a part of the `--rpc-cors` list stands for every origin. -/
def allowsAll (part : String) : Bool := part = "all" ∨ part = "*"

theorem corsLoop_fst (parts origins : List String) :
    (corsLoop parts origins).1 = parts.any allowsAll := by
  induction parts generalizing origins with
  | nil => rfl
  | cons part rest ih =>
    unfold corsLoop
    split_ifs with stop <;> simp_all [allowsAll]

theorem corsLoop_snd {parts : List String} (origins : List String)
    (none : parts.any allowsAll = false) :
    (corsLoop parts origins).2 = origins ++ parts := by
  induction parts generalizing origins with
  | nil => simp [corsLoop]
  | cons part rest ih =>
    simp only [List.any_cons, Bool.or_eq_false_iff, allowsAll, decide_eq_false_iff_not] at none
    simp [corsLoop, none.1, ih _ none.2]

def Cors.fromStr (s : String) : Cors :=
  match corsLoop (s.splitOn ",") [] with
  | (true, _) => .all
  | (false, origins) => .list origins

/-- `Cors::from_str` allows every origin exactly when some part is `all` or `*`; otherwise
it keeps every part, empty ones included. -/
theorem Cors.fromStr_eq (s : String) :
    Cors.fromStr s = if (s.splitOn ",").any allowsAll then .all else .list (s.splitOn ",") := by
  unfold Cors.fromStr
  have first := corsLoop_fst (s.splitOn ",") []
  split <;> rename_i isAll origins result <;> rw [result] at first <;> dsimp only at first
  · rw [← first]; rfl
  · have rest := corsLoop_snd [] first.symm
    rw [result, List.nil_append] at rest
    rw [← first, ← rest]; rfl

structure Ipv4Addr where
  octets : List UInt8
  deriving DecidableEq

def Ipv4Addr.unspecified : Ipv4Addr := ⟨[0, 0, 0, 0]⟩

def Ipv4Addr.localhost : Ipv4Addr := ⟨[127, 0, 0, 1]⟩

structure SocketAddr where
  ip : Ipv4Addr
  port : UInt16
  deriving DecidableEq

inductive BatchRequestConfig
  | disabled
  | limit (len : UInt32)
  | unlimited
  deriving DecidableEq

/-- The fields of `RpcParams` the methods below read. -/
structure RpcParams where
  rpcExternal : Bool
  rpcEndpoints : RpcEndpoints
  rpcPort : UInt16
  rpcPortAdmin : UInt16
  rpcDisableBatchRequests : Bool
  rpcMaxBatchRequestLen : Option UInt32
  rpcCors : Option Cors

namespace RpcParams

def cors (params : RpcParams) : Option (List String) :=
  let cors := params.rpcCors.getD
    (if params.rpcExternal then .all
     else .list ["http://localhost:*", "http://127.0.0.1:*", "https://localhost:*",
       "https://127.0.0.1:*"])
  match cors with
  | .all => none
  | .list ls => some ls

def addrUser (params : RpcParams) : SocketAddr :=
  ⟨if params.rpcExternal then .unspecified else .localhost, params.rpcPort⟩

def addrAdmin (params : RpcParams) : SocketAddr :=
  ⟨if params.rpcExternal ∧ params.rpcEndpoints = .unrestricted then .unspecified else .localhost,
    params.rpcPortAdmin⟩

def batchConfig (params : RpcParams) : BatchRequestConfig :=
  if params.rpcDisableBatchRequests then .disabled
  else match params.rpcMaxBatchRequestLen with
    | some l => .limit l
    | none => .unlimited

theorem cors_eq_none_iff (params : RpcParams) :
    params.cors = none ↔
      params.rpcCors = some .all ∨ params.rpcCors = none ∧ params.rpcExternal = true := by
  unfold cors
  rcases params with ⟨_ | _, _, _, _, _, _, _ | _ | _⟩ <;> simp

theorem addrAdmin_public {params : RpcParams} (public : params.addrAdmin.ip = .unspecified) :
    params.rpcExternal = true ∧ params.rpcEndpoints = .unrestricted ∧
      params.addrUser.ip = .unspecified := by
  unfold addrAdmin at public
  split_ifs at public with exposed
  · exact ⟨exposed.1, exposed.2, if_pos exposed.1⟩
  · exact absurd public (show Ipv4Addr.localhost ≠ Ipv4Addr.unspecified by decide)

end RpcParams

end Madara.Node
