import Coprocessor.Proofs.Mailbox.ReceiveTrace
import Coprocessor.Proofs.Mailbox.SendTrace

/-!
What landed in a mailbox. A write that failed has not landed. Of a packet that is sent, its words
land in order, and the signal that completes it lands only after all of them.
-/
namespace Coprocessor

open Act

variable {ε : Type}

/-- The register and the value of a write that was asked for. -/
def Operation.written? : Operation → Option (Register × UInt32)
  | .write r value => some (r, value)
  | .read _ | .barrier => none

/-- The register and the value of a write that did not fail. -/
def Transaction.landed? : Transaction ε → Option (Register × UInt32)
  | .write r value (.ok _) => some (r, value)
  | .write _ _ (.error _) | .read .. | .barrier => none

/-- The writes that landed, the oldest first. -/
def landed (trace : List (Transaction ε)) : List (Register × UInt32) :=
  trace.filterMap Transaction.landed?

theorem landed_append (trace trace' : List (Transaction ε)) :
    landed (trace ++ trace') = landed trace ++ landed trace' :=
  List.filterMap_append

/-- A trace of reads: no write was asked for, not even one that failed. -/
def OnlyReads (trace : List (Transaction ε)) : Prop :=
  ∀ t ∈ trace, ∃ r answer, t = .read r answer

theorem OnlyReads.landed {trace : List (Transaction ε)} (h : OnlyReads trace) :
    landed trace = [] := by
  refine List.filterMap_eq_nil_iff.mpr fun t mem => ?_
  obtain ⟨r, answer, rfl⟩ := h t mem
  rfl

/-! ## Sending -/

section Sending

variable [Raises ε]

theorem Transaction.landed?_of_goes {t : Transaction ε} (goes : t.stop? = none) :
    t.landed? = t.operation.written? := by
  cases t with
  | read r answer => rfl
  | barrier => rfl
  | write r value answer =>
    cases answer with
    | ok done => rfl
    | error e => cases goes

theorem Transaction.landed?_of_stops {t : Transaction ε} {e : ε} (stops : t.stop? = some e) :
    t.landed? = none := by
  cases t with
  | read r answer => rfl
  | barrier => rfl
  | write r value answer =>
    cases answer with
    | ok done => cases stops
    | error e => rfl

theorem landed_of_goes {trace : List (Transaction ε)} (go : ∀ t ∈ trace, t.stop? = none) :
    landed trace = (trace.map Transaction.operation).filterMap Operation.written? := by
  induction trace with
  | nil => rfl
  | cons t trace ih =>
    rw [landed, List.filterMap_cons, List.map_cons, List.filterMap_cons,
      Transaction.landed?_of_goes (go t List.mem_cons_self)]
    rw [landed] at ih
    rw [ih fun t mem => go t (List.mem_cons_of_mem _ mem)]

/-- The words of a packet, as they are written. -/
def wordWrites (p : Packet) : List (Register × UInt32) :=
  p.wire.map fun word => (.wdata, word)

theorem written_wordPlans (words : List UInt32) :
    (words.flatMap wordPlan).filterMap Operation.written? =
      words.map fun word => (.wdata, word) := by
  induction words with
  | nil => rfl
  | cons word words ih =>
    rw [List.flatMap_cons, List.filterMap_append, ih]
    rfl

/-- A send that works lands the words of its packet and then the signal. -/
theorem landed_of_sent {p : Packet} {trace : List (Transaction ε)}
    (follows : Follows (sendPlan p) trace none) :
    landed trace = wordWrites p ++ [(.done, 1)] := by
  obtain ⟨operations, go⟩ := follows.whole rfl
  rw [landed_of_goes go, operations, sendPlan, List.filterMap_append, written_wordPlans]
  rfl

theorem sendPlan_eq (p : Packet) :
    sendPlan p = (p.wire.flatMap wordPlan ++ [.barrier]) ++ [.write .done 1, .barrier] := by
  simp [sendPlan, signalPlan]

/-- A send that fails has not come past its signal, because the barrier after that cannot fail. -/
theorem before_signal {p : Packet} {before : List (Transaction ε)} {last : Transaction ε} {e : ε}
    (follows : Follows (sendPlan p) (before ++ [last]) (some e)) :
    before.map Transaction.operation <+: p.wire.flatMap wordPlan ++ [.barrier] := by
  have asked := follows.operations_isPrefix
  have unfinished : (before ++ [last]).map Transaction.operation ≠ sendPlan p := by
    rw [sendPlan_fenced] at follows ⊢
    exact fun whole => nomatch follows.whole_iff.mp whole
  have short : (before ++ [last]).length ≠ (sendPlan p).length := by
    intro whole
    exact unfinished (asked.eq_of_length (by rw [List.length_map, whole]))
  have length := asked.length_le
  rw [sendPlan_eq] at asked short length
  rw [List.map_append] at asked
  simp only [List.length_map, List.length_append, List.length_cons, List.length_nil] at short length
  refine List.prefix_of_prefix_length_le ((List.prefix_append ..).trans asked)
    (List.prefix_append ..) ?_
  rw [List.length_map, List.length_append, List.length_singleton]
  omega

/-- A send that fails lands words of its packet, and never the signal. -/
theorem landed_of_unsent {p : Packet} {trace : List (Transaction ε)} {e : ε}
    (follows : Follows (sendPlan p) trace (some e)) : landed trace <+: wordWrites p := by
  obtain ⟨before, last, rfl, stops, go⟩ := follows.broken rfl
  have fails : landed [last] = [] := by
    rw [landed, List.filterMap_cons_none (Transaction.landed?_of_stops stops)]
    rfl
  have written := (before_signal follows).filterMap Operation.written?
  have fence : [Operation.barrier].filterMap Operation.written? = [] := rfl
  rw [List.filterMap_append, written_wordPlans, fence, List.append_nil] at written
  rw [landed_append, fails, List.append_nil, landed_of_goes go]
  exact written

end Sending

/-! ## Receiving -/

theorem Shows.withLocal {τ' τ ρ α : Type} {k : Recording τ' τ ε} {init : ρ}
    {x : Act ε (τ × ρ) α} {y : Act ε (τ' × ρ) α} {T : List (Transaction ε) → Prop}
    (h : Shows k.beside x y fun added _ => T added) :
    Shows k (Act.withLocal init x) (Act.withLocal init y) fun added _ => T added := by
  intro s
  obtain ⟨added, same, grown, holds⟩ := h (s, init)
  rcases hr : y.run (s, init) with ⟨e | a, s', own⟩
  · rw [hr] at same grown
    rw [run_withLocal_error hr, run_withLocal_error same]
    exact ⟨added, rfl, grown, holds⟩
  · rw [hr] at same grown
    rw [run_withLocal_ok hr, run_withLocal_ok same]
    exact ⟨added, rfl, grown, holds⟩

/-- A receive only reads. -/
theorem Transfer.shows_receiveFresh {σ : Type} [RegisterBus σ ε] [Raises ε] :
    Shows Recording.ofBus (receiveFresh : Act ε σ Packet) receiveFresh
      fun added _ => OnlyReads added := by
  have reads : Shows Recording.ofBus.beside (receive : Act ε (σ × Packet) Nat) receive
      fun added _ => OnlyReads added := by
    refine shows_receive.mono ?_
    rintro added r ⟨version, rest, rfl, gated, -⟩ t mem
    rcases List.mem_cons.mp mem with rfl | later
    · exact ⟨.rdata, version, rfl⟩
    · obtain ⟨answer, rfl | rfl⟩ := gated.reads later
      · exact ⟨.status, answer, rfl⟩
      · exact ⟨.rdata, answer, rfl⟩
  refine (reads.withLocal.map Prod.snd).mono ?_
  rintro added r ⟨-, only, -⟩
  exact only

end Coprocessor
