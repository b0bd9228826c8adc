/-! Enumerations that are stored and sent as short texts. A type lists its
values and their codes; reading finds the value with the code and refuses every
other text, so it undoes writing. -/

namespace TenantStore

/-- A text that is no code of the enumeration it was read for. -/
structure UnknownCode where
  enumeration : String
  value : String
  deriving DecidableEq, Repr

def UnknownCode.message (u : UnknownCode) : String :=
  "unknown " ++ u.enumeration ++ " '" ++ u.value ++ "'"

/-- Every value is listed and has a code of its own. -/
class Coded (α : Type) where
  enumeration : String
  all : List α
  code : α → String
  mem_all : ∀ a, a ∈ all
  code_inj : ∀ a ∈ all, ∀ b ∈ all, code a = code b → a = b

namespace Coded

def read (α : Type) [Coded α] (s : String) : Except UnknownCode α :=
  match (all : List α).find? fun a => code a == s with
  | some a => .ok a
  | none => .error ⟨enumeration α, s⟩

variable {α : Type} [Coded α]

theorem code_injective {a b : α} (h : code a = code b) : a = b :=
  code_inj a (mem_all a) b (mem_all b) h

theorem read_eq_ok_iff {s : String} {a : α} : read α s = .ok a ↔ code a = s := by
  rw [read]
  cases hf : (all : List α).find? fun b => code b == s with
  | none =>
    have ha := List.find?_eq_none.mp hf a (mem_all a)
    simpa using ha
  | some b =>
    have hb := List.find?_some hf
    simp only [beq_iff_eq] at hb
    simp only [Except.ok.injEq]
    exact ⟨fun h => h ▸ hb, fun h => code_injective (hb.trans h.symm)⟩

@[simp] theorem read_code (a : α) : read α (code a) = .ok a := read_eq_ok_iff.mpr rfl

end Coded

/-- Our side of a credential exchange. -/
inductive CredentialRole where
  | issuer
  | holder
  deriving DecidableEq, Repr

/-- Our side of a proof exchange. -/
inductive ProofRole where
  | prover
  | verifier
  deriving DecidableEq, Repr

/-- The protocol a job follows. -/
inductive ProtocolType where
  | connection
  | credential
  | proof
  | basicMessage
  deriving DecidableEq, Repr

inductive JobStatus where
  | waiting
  | pending
  | complete
  deriving DecidableEq, Repr

inductive JobResult where
  | none
  | success
  | failure
  deriving DecidableEq, Repr

instance : Coded CredentialRole where
  enumeration := "CredentialRole"
  all := [.issuer, .holder]
  code
    | .issuer => "issuer"
    | .holder => "holder"
  mem_all a := by cases a <;> decide
  code_inj := by decide

instance : Coded ProofRole where
  enumeration := "ProofRole"
  all := [.prover, .verifier]
  code
    | .prover => "prover"
    | .verifier => "verifier"
  mem_all a := by cases a <;> decide
  code_inj := by decide

instance : Coded ProtocolType where
  enumeration := "ProtocolType"
  all := [.connection, .credential, .proof, .basicMessage]
  code
    | .connection => "connection"
    | .credential => "credential"
    | .proof => "proof"
    | .basicMessage => "basic_message"
  mem_all a := by cases a <;> decide
  code_inj := by decide

instance : Coded JobStatus where
  enumeration := "JobStatus"
  all := [.waiting, .pending, .complete]
  code
    | .waiting => "waiting"
    | .pending => "pending"
    | .complete => "complete"
  mem_all a := by cases a <;> decide
  code_inj := by decide

instance : Coded JobResult where
  enumeration := "JobResult"
  all := [.none, .success, .failure]
  code
    | .none => "none"
    | .success => "success"
    | .failure => "failure"
  mem_all a := by cases a <;> decide
  code_inj := by decide

end TenantStore
