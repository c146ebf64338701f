import Coprocessor.Client
import Coprocessor.Proofs.Act.Relates
import Coprocessor.Proofs.Act.Triple

/-!
Which answers a client accepts. No more is looked at than the opcode, which has to be that of a
response, and of the right one where it is known what was asked. What is not accepted is refused
with a message.
-/
namespace Coprocessor

open Act

/-! ## Opcodes -/

theorem Response.ofCode_eq_ok_iff {code : UInt16} {r : Response} :
    ofCode code = .ok r ↔ code = r.code := by
  refine ⟨fun known => ?_, fun same => same ▸ ofCode_code r⟩
  rw [ofCode] at known
  split at known <;> cases known <;> exact UInt16.toNat_inj.mp ‹_›

theorem Response.exists_code_iff {code : UInt16} :
    (∃ r : Response, r ≠ .invalid ∧ code = r.code) ↔ 128 ≤ code.toNat ∧ code.toNat ≤ 131 := by
  constructor
  · rintro ⟨r, known, rfl⟩
    cases r with
    | invalid => exact absurd rfl known
    | knock | offloadTransform | sharedMemoryCompute | persistentWrite => decide
  · rintro ⟨lowest, highest⟩
    have cases : code.toNat = 128 ∨ code.toNat = 129 ∨ code.toNat = 130 ∨ code.toNat = 131 := by
      omega
    rcases cases with h | h | h | h
    · exact ⟨.knock, nofun, UInt16.toNat_inj.mp h⟩
    · exact ⟨.offloadTransform, nofun, UInt16.toNat_inj.mp h⟩
    · exact ⟨.sharedMemoryCompute, nofun, UInt16.toNat_inj.mp h⟩
    · exact ⟨.persistentWrite, nofun, UInt16.toNat_inj.mp h⟩

theorem Response.code_injective {r r' : Response} (h : r.code = r'.code) : r = r' :=
  Except.ok.inj ((ofCode_code r).symm.trans (ofCode_eq_ok_iff.mpr h))

namespace Client

/-- The request codes with an answer, and the code of the answer. -/
theorem expected?_eq_some_iff {asked : UInt16} {r : Response} :
    expected? (some asked) = some r ↔
      (1 ≤ asked.toNat ∧ asked.toNat ≤ 4) ∧ r.code.toNat = asked.toNat + 127 := by
  simp only [expected?, Request.ofCode]
  rcases asked.toNat with _ | _ | _ | _ | _ | n
  all_goals simp [Request.answer?]
  all_goals cases r <;> simp [Response.code]

/-- An opcode that a request with opcode `asked` can be answered with. It is that of a response, and
of the right one if requests of that kind are answered. -/
def Answers (asked opcode : UInt16) : Prop :=
  (128 ≤ opcode.toNat ∧ opcode.toNat ≤ 131) ∧
    (1 ≤ asked.toNat ∧ asked.toNat ≤ 4 → opcode.toNat = asked.toNat + 127)

instance (asked opcode : UInt16) : Decidable (Answers asked opcode) :=
  inferInstanceAs (Decidable (_ ∧ _))

theorem exists_expected {asked : UInt16} (answered : 1 ≤ asked.toNat ∧ asked.toNat ≤ 4) :
    ∃ expected, expected? (some asked) = some expected := by
  have code : (asked + 127).toNat = asked.toNat + 127 := by
    rw [UInt16.toNat_add]
    exact Nat.mod_eq_of_lt (by simp; omega)
  obtain ⟨r, -, same⟩ := Response.exists_code_iff.mpr (code.symm ▸ by omega :
    128 ≤ (asked + 127).toNat ∧ (asked + 127).toNat ≤ 131)
  exact ⟨r, expected?_eq_some_iff.mpr ⟨answered, same ▸ code⟩⟩

theorem answers_code_iff {asked : UInt16} {actual : Response} (known : actual ≠ .invalid) :
    Answers asked actual.code ↔
      ∀ expected, expected? (some asked) = some expected → expected = actual := by
  constructor
  · rintro ⟨-, right⟩ expected asks
    obtain ⟨answered, code⟩ := expected?_eq_some_iff.mp asks
    exact Response.code_injective (UInt16.toNat_inj.mp (code.trans (right answered).symm))
  · intro right
    refine ⟨Response.exists_code_iff.mp ⟨actual, known, rfl⟩, fun answered => ?_⟩
    obtain ⟨expected, asks⟩ := exists_expected answered
    obtain rfl := right expected asks
    exact (expected?_eq_some_iff.mp asks).2

section Accepting

variable {σ ε : Type} [Raises ε]

theorem acceptAnswer_of_none {response : Packet} {actual : Response} {asked : Option UInt16}
    (kind : response.toResponse = .ok actual) (known : actual ≠ .invalid)
    (asks : expected? asked = none) : (acceptAnswer response asked : Act ε σ Unit) = pure () := by
  rw [acceptAnswer, kind]
  cases actual with
  | invalid => exact absurd rfl known
  | knock | offloadTransform | sharedMemoryCompute | persistentWrite => rw [asks]

theorem acceptAnswer_of_some {response : Packet} {actual expected : Response}
    {asked : Option UInt16} (kind : response.toResponse = .ok actual) (known : actual ≠ .invalid)
    (asks : expected? asked = some expected) :
    (acceptAnswer response asked : Act ε σ Unit) =
      if expected = actual then pure ()
      else Act.log (.answerUnexpected expected actual) >>= fun _ => Act.fail .invalidOpcode := by
  rw [acceptAnswer, kind]
  cases actual with
  | invalid => exact absurd rfl known
  | knock | offloadTransform | sharedMemoryCompute | persistentWrite => rw [asks]

/-- An answer is accepted for its opcode alone. -/
theorem run_acceptAnswer (response : Packet) (asked : UInt16) (s : σ) :
    (acceptAnswer response (some asked) : Act ε σ Unit).run s =
      (if Answers asked response.opcode then .ok () else .error (Raises.raise .invalidOpcode),
        s) := by
  by_cases known : ∃ r : Response, r ≠ .invalid ∧ response.opcode = r.code
  · obtain ⟨actual, known, code⟩ := known
    have kind : response.toResponse = .ok actual := Response.ofCode_eq_ok_iff.mpr code
    rw [code, if_congr (answers_code_iff known) rfl rfl]
    cases asks : expected? (some asked) with
    | none =>
      rw [acceptAnswer_of_none kind known asks]
      simp
    | some expected =>
      rw [acceptAnswer_of_some kind known asks]
      by_cases right : expected = actual
      · simp [right]
      · simp [right]
  · have refused : ¬ Answers asked response.opcode := fun answers =>
      known (Response.exists_code_iff.mpr answers.1)
    rw [if_neg refused, acceptAnswer]
    split
    · rfl
    · rfl
    · next actual valid kind =>
      exact absurd ⟨actual, valid, Response.ofCode_eq_ok_iff.mp kind⟩ known

end Accepting

/-! ## Accepted or refused -/

/-- An answer is accepted without a word, or refused with one; which does not depend on the state. -/
theorem acceptAnswer_cases (response : Packet) (asked : Option UInt16) :
    (∀ (σ ε : Type) [Raises ε], (acceptAnswer response asked : Act ε σ Unit) = pure ()) ∨
      ∃ m, ∀ (σ ε : Type) [Raises ε], (acceptAnswer response asked : Act ε σ Unit) =
        Act.log m >>= fun _ => Act.fail .invalidOpcode := by
  cases kind : response.toResponse with
  | error e => exact .inr ⟨_, fun σ ε _ => by rw [acceptAnswer, kind]⟩
  | ok actual =>
    by_cases known : actual = .invalid
    · exact .inr ⟨_, fun σ ε _ => by rw [acceptAnswer, kind, known]⟩
    · cases asks : expected? asked with
      | none => exact .inl fun σ ε _ => acceptAnswer_of_none kind known asks
      | some expected =>
        by_cases right : expected = actual
        · exact .inl fun σ ε _ => by rw [acceptAnswer_of_some kind known asks, if_pos right]
        · exact .inr ⟨_, fun σ ε _ => by rw [acceptAnswer_of_some kind known asks, if_neg right]⟩

theorem keeps_acceptAnswer {σ ε : Type} [Raises ε] {P : σ → Prop} (response : Packet)
    (asked : Option UInt16) : Keeps P (acceptAnswer response asked : Act ε σ Unit) := by
  obtain accepts | ⟨m, refuses⟩ := acceptAnswer_cases response asked
  · rw [accepts]
    exact Keeps.pure ()
  · rw [refuses]
    exact (Keeps.log m).bind fun _ => Keeps.fail .invalidOpcode

theorem relates_acceptAnswer {σ τ ε : Type} [Raises ε] {E : Comparison} {R : σ → τ → Prop}
    (response : Packet) (asked : Option UInt16) :
    Relates E R (acceptAnswer response asked : Act ε σ Unit) (acceptAnswer response asked) := by
  obtain accepts | ⟨m, refuses⟩ := acceptAnswer_cases response asked
  · rw [accepts, accepts]
    exact Relates.pure ()
  · rw [refuses, refuses]
    exact (Relates.log m).bind fun _ => Relates.fail .invalidOpcode

end Client

end Coprocessor
