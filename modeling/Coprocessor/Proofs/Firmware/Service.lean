import Coprocessor.Proofs.Command.Responses
import Coprocessor.Proofs.Firmware.WindowConfinement

/-!
The interrupt loop of the firmware comes to rest. Whatever the mailbox answers and whatever fails,
each handler ends, clears the line it was entered for and touches no other; so the loop runs one
handler for every source that was ready, and then finds none.
-/
namespace Coprocessor

open Act

/-! ## Lines that are ready -/

/-- The line of a source whose handler was entered and has cleared it. -/
def Line.served (l : Line) : Line :=
  { l with pending := false, acknowledged := l.acknowledged + 1, cleared := l.cleared + 1 }

namespace Lines

variable {c : Lines} {s : Source} {rest : List Source}

/-- The sources that are enabled and pending, in the order in which the firmware services them. -/
def readySources (c : Lines) : List Source :=
  [.mailboxAvailable, .mailboxAbort].filter c.ready

theorem mem_readySources : s ∈ c.readySources ↔ c.ready s = true := by
  cases s with
  | mailboxAvailable => simp [readySources]
  | mailboxAbort => simp [readySources]

theorem ready_served (c : Lines) (s : Source) : (c.mapLine Line.served s).ready s = false := by
  simp [ready, Line.served]

theorem ready_served_other (c : Lines) (s : Source) :
    (c.mapLine Line.served s).ready s.other = c.ready s.other := by
  simp [ready]

theorem readySources_eq (c : Lines) :
    c.readySources = (if c.ready .mailboxAvailable then [.mailboxAvailable] else []) ++
      if c.ready .mailboxAbort then [.mailboxAbort] else [] := by
  unfold readySources
  rw [List.filter_cons, List.filter_cons]
  cases c.ready .mailboxAvailable <;> simp

/-- A source that is served is no longer ready, and the others are as before. -/
theorem readySources_served (first : c.readySources = s :: rest) :
    (c.mapLine Line.served s).readySources = rest := by
  rw [readySources_eq] at first ⊢
  cases s with
  | mailboxAvailable =>
    have other : (c.mapLine Line.served .mailboxAvailable).ready .mailboxAbort =
        c.ready .mailboxAbort := ready_served_other c .mailboxAvailable
    rw [ready_served, other]
    cases available : c.ready .mailboxAvailable with
    | true =>
      rw [available] at first
      exact (List.cons.inj first).2
    | false => cases abort : c.ready .mailboxAbort <;> simp [available, abort] at first
  | mailboxAbort =>
    have other : (c.mapLine Line.served .mailboxAbort).ready .mailboxAvailable =
        c.ready .mailboxAvailable := ready_served_other c .mailboxAbort
    rw [ready_served, other]
    cases available : c.ready .mailboxAvailable with
    | true => simp [available] at first
    | false => cases abort : c.ready .mailboxAbort <;> simp_all

/-- The lines after the handlers of some sources: those are served once, and no other is touched. -/
def Served (c : Lines) (sources : List Source) (c' : Lines) : Prop :=
  ∀ s, c'.line s = if s ∈ sources then (c.line s).served else c.line s

end Lines

namespace Firmware

variable {μ : Type} [RegisterBus μ Error] {f : Firmware μ Lines (TappedDevice PagedRam)}

/-! ## One handler -/

/-- Every request that was received comes to an outcome. -/
theorem exists_answered {c : Commands (TappedDevice PagedRam)} (addressable : c.Addressable)
    (request : Packet) (m : μ) :
    ∃ outcome m' c', (answer request).run (m, c) = (.ok outcome, m', c') ∧ c'.Addressable := by
  rcases unknown_or_handled (δ := TappedDevice PagedRam) request with
    unknown | ⟨op, handler, known, found⟩
  · exact ⟨_, m, c, run_answer_ignored request (m, c) unknown, addressable⟩
  · obtain ⟨response, c', handled, -, addressable'⟩ :=
      (Commands.answers_handler found request).exists_ok addressable
    rw [run_answer_handled known found, handled]
    exact ⟨_, _, c', rfl, addressable'⟩

theorem exists_run_runCycle {κ : Type} [InterruptController κ]
    {f : Firmware μ κ (TappedDevice PagedRam)} (addressable : f.commands.Addressable) :
    ∃ parts outcome, runCycle.run f = (.ok (), f.finished parts outcome) ∧ parts.2.Addressable := by
  rw [run_runCycle]
  rcases (Transfer.receiveFresh : Act Error μ Packet).run f.mailbox with ⟨e | request, m⟩
  · exact ⟨_, _, rfl, addressable⟩
  · obtain ⟨outcome, m', c', answered, addressable'⟩ := exists_answered addressable request m
    dsimp only
    rw [answered]
    exact ⟨_, _, rfl, addressable'⟩

theorem run_serviceAbort {m : μ} {r : Except Error Unit}
    (acknowledges : (Mailbox.acknowledgeAbort : Act Error μ Unit).run f.mailbox = (r, m)) :
    serviceAbort.run f = (.ok (), { f with
      mailbox := m
      controller := f.controller.mapLine
        (fun l => { l with pending := false, cleared := l.cleared + 1 }) .mailboxAbort
      lastAbort := some r
      aborts := f.aborts + 1 }) := by
  have attempted : ((Mailbox.acknowledgeAbort.within fun (m, c) => (m, fun m => (m, c))).attempt :
      Act Trap (μ × Lines) (Except Error Unit)).run (f.mailbox, f.controller) =
        (.ok r, m, f.controller) := by
    rw [run_attempt, run_within_eq acknowledges]
  have channel : (acknowledgeAbort : Act Trap (μ × Lines) _).run (f.mailbox, f.controller) =
      (.ok r, m, f.controller.mapLine
        (fun l => { l with pending := false, cleared := l.cleared + 1 }) .mailboxAbort) := by
    rw [acknowledgeAbort, run_bind_ok attempted]
    cases r with
    | ok done => rfl
    | error e => rfl
  have whole : (acknowledgeAbort.within abortPart).run f = (.ok r, _) := run_within_eq channel
  rw [serviceAbort, run_bind_ok whole]
  rfl

/-- The handler of a source ends, clears the line of the source and leaves the other alone. -/
theorem exists_serviced (addressable : f.commands.Addressable) (s : Source) :
    ∃ g, (service s).run (VectorTable.entered f s) = (.ok (), g) ∧
      g.controller = f.controller.mapLine Line.served s ∧ g.commands.Addressable := by
  cases s with
  | mailboxAvailable =>
    obtain ⟨parts, outcome, ran, addressable'⟩ :=
      exists_run_runCycle (f := VectorTable.entered f .mailboxAvailable) addressable
    exact ⟨_, ran, rfl, addressable'⟩
  | mailboxAbort => exact ⟨_, run_serviceAbort rfl, rfl, addressable⟩

/-! ## The loop -/

/-- The handlers of sources, each entered where the one before it ended. -/
inductive Attended : Firmware μ Lines (TappedDevice PagedRam) → List Source →
    Firmware μ Lines (TappedDevice PagedRam) → Prop
  | nil (g : Firmware μ Lines (TappedDevice PagedRam)) : Attended g [] g
  | cons {f f₁ g : Firmware μ Lines (TappedDevice PagedRam)} {s : Source} {rest : List Source}
    (ran : (service s).run (VectorTable.entered f s) = (.ok (), f₁))
    (later : Attended f₁ rest g) : Attended f (s :: rest) g

/-- The vectors of the firmware. -/
def vectors (priority : UInt8) :
    VectorTable Trap (Firmware μ Lines (TappedDevice PagedRam)) :=
  ⟨[⟨.mailboxAvailable, priority, service .mailboxAvailable⟩,
    ⟨.mailboxAbort, priority, service .mailboxAbort⟩]⟩

theorem run_serviceMostUrgent_none (priority : UInt8) (quiet : f.controller.readySources = []) :
    (vectors priority).serviceMostUrgent.run f = (.ok none, f) := by
  apply VectorTable.run_serviceMostUrgent_none fun _ => rfl
  intro v _
  rw [Bool.eq_false_iff]
  intro ready
  have mem : v.source ∈ f.controller.readySources := Lines.mem_readySources.mpr ready
  rw [quiet] at mem
  cases mem

/-- One round runs the handler of the first source that is ready. -/
theorem exists_round (addressable : f.commands.Addressable) (priority : UInt8) {s : Source}
    {rest : List Source} (first : f.controller.readySources = s :: rest) :
    ∃ g, (vectors priority).serviceMostUrgent.run f = (.ok (some s), g) ∧
      (service s).run (VectorTable.entered f s) = (.ok (), g) ∧
      g.controller = f.controller.mapLine Line.served s ∧ g.commands.Addressable := by
  obtain ⟨g, ran, lines, addressable'⟩ := exists_serviced addressable s
  refine ⟨g, ?_, ran, lines, addressable'⟩
  have found : (vectors priority).vectors.find? (fun v => f.controller.ready v.source) =
      some ⟨s, priority, (service s : Act Trap (Firmware μ Lines _) Unit)⟩ := by
    rw [Lines.readySources_eq] at first
    unfold vectors
    cases available : f.controller.ready .mailboxAvailable <;>
      cases abort : f.controller.ready .mailboxAbort <;> simp_all
  exact VectorTable.run_serviceMostUrgent (fun _ => rfl) found ran

/-- Any number of rounds, as long as sources are ready. -/
theorem exists_rounds (addressable : f.commands.Addressable) (priority : UInt8)
    {served rest : List Source} (ready : f.controller.readySources = served ++ rest) :
    ∃ g, (vectors priority).Rounds f served g ∧ Attended f served g ∧
      Lines.Served f.controller served g.controller ∧ g.controller.readySources = rest := by
  induction served generalizing f with
  | nil => exact ⟨f, .start f, .nil f, fun s => rfl, ready⟩
  | cons s served ih =>
    obtain ⟨f₁, serviced, ran, lines, addressable₁⟩ := exists_round addressable priority ready
    have ready₁ : f₁.controller.readySources = served ++ rest := by
      rw [lines]
      exact Lines.readySources_served ready
    obtain ⟨g, rounds, attended, touched, quiet⟩ := ih addressable₁ ready₁
    refine ⟨g, .next serviced rounds, .cons ran attended, ?_, quiet⟩
    intro source
    rw [touched source, lines]
    by_cases same : source = s
    · subst same
      -- the source was cleared, so it is not among those that are ready later
      have gone : source ∉ served := by
        intro mem
        have again : source ∈ f₁.controller.readySources := by
          rw [ready₁]
          exact List.mem_append_left rest mem
        rw [lines, Lines.mem_readySources, Lines.ready_served] at again
        cases again
      rw [if_neg gone, if_pos List.mem_cons_self, Lines.line_mapLine_self]
    · rw [Lines.line_mapLine_of_ne _ _ same]
      simp [same]

/-- The interrupt loop never wedges. With room for every source that is enabled and pending, it runs
the handler of each once, a request before an abort, gives their number, and leaves none that is
enabled and pending; with less room it runs one handler more than it has room for and says so. Each
handler that ran has entered and cleared its own line, once, and no other line was touched. -/
theorem serviceUpTo_settles (f : Firmware μ Lines (TappedDevice PagedRam))
    (addressable : f.commands.Addressable) (priority : UInt8) (limit : Nat) :
    ∃ table, vectorTable priority = .ok table ∧
      (f.controller.readySources.length ≤ limit → ∃ g,
        (table.serviceUpTo limit).run f = (.ok (.ok f.controller.readySources.length), g) ∧
          Attended f f.controller.readySources g ∧
          Lines.Served f.controller f.controller.readySources g.controller ∧
          ∀ s, g.controller.ready s = false) ∧
      (limit < f.controller.readySources.length → ∃ g served,
        (table.serviceUpTo limit).run f = (.ok (.error .timeout), g) ∧
          served = f.controller.readySources.take (limit + 1) ∧ served.length = limit + 1 ∧
          Attended f served g ∧ Lines.Served f.controller served g.controller) := by
  refine ⟨vectors priority, vectorTable_eq priority, ?_, ?_⟩
  · intro room
    have all : f.controller.readySources = f.controller.readySources ++ [] :=
      (List.append_nil _).symm
    obtain ⟨g, rounds, attended, lines, quiet⟩ := exists_rounds addressable priority all
    refine ⟨g, rounds.run_serviceUpTo (run_serviceMostUrgent_none priority quiet) room, attended,
      lines, ?_⟩
    intro s
    rw [Bool.eq_false_iff]
    intro ready
    have mem := Lines.mem_readySources.mpr ready
    rw [quiet] at mem
    cases mem
  · intro beyond
    obtain ⟨g, rounds, attended, lines, -⟩ := exists_rounds addressable priority
      (List.take_append_drop (limit + 1) f.controller.readySources).symm
    have length : (f.controller.readySources.take (limit + 1)).length = limit + 1 :=
      List.length_take_of_le beyond
    exact ⟨g, _, rounds.run_serviceUpTo_unending length, rfl, length, attended, lines⟩

theorem addressable_twoPages : twoPages.commands.Addressable := by
  show (0 : UInt32).toNat + (Array.replicate 64 7 : Array UInt8).size < 0x100000000
  rw [Array.size_replicate]
  decide

/-- A knock and an abort, both pending. -/
def knockAndAbortPending : SimulatedFirmware :=
  { twoPages with
    mailbox := .clear (((Endpoint.new Endpoint.defaultDepth).push
      (Packet.ofRequest .knock).wire).abortByPeer)
    controller := ⟨{ Line.idle with enabled := true, pending := true },
      { Line.idle with enabled := true, pending := true }⟩ }

/-- Both are serviced where there is room for both, the knock first. With room for one, the other is
serviced too and reported. -/
theorem serviceUpTo_settles_both :
    knockAndAbortPending.commands.Addressable ∧ ∃ table g g',
      vectorTable 1 = .ok table ∧
        (table.serviceUpTo 8).run knockAndAbortPending = (.ok (.ok 2), g) ∧
        Attended knockAndAbortPending [.mailboxAvailable, .mailboxAbort] g ∧
        g.lastOutcome = some (.responded 128 1) ∧ g.aborts = 1 ∧
        (table.serviceUpTo 1).run knockAndAbortPending = (.ok (.error .timeout), g') := by
  have addressable : knockAndAbortPending.commands.Addressable := addressable_twoPages
  obtain ⟨table, made, settles, -⟩ := serviceUpTo_settles knockAndAbortPending addressable 1 8
  obtain ⟨table', made', -, exceeds⟩ := serviceUpTo_settles knockAndAbortPending addressable 1 1
  obtain rfl : table = vectors 1 := Except.ok.inj (made.symm.trans (vectorTable_eq 1))
  obtain rfl : table' = vectors 1 := Except.ok.inj (made'.symm.trans (vectorTable_eq 1))
  obtain ⟨g, ran, attended, -, -⟩ := settles (by decide)
  obtain ⟨g', -, stopped, -⟩ := exceeds (by decide)
  have outcome : (((vectors 1).serviceUpTo 8).run knockAndAbortPending).2.lastOutcome =
      some (.responded 128 1) := by
    decide +kernel
  have aborts : (((vectors 1).serviceUpTo 8).run knockAndAbortPending).2.aborts = 1 := by
    decide +kernel
  rw [ran] at outcome aborts
  exact ⟨addressable, vectors 1, g, g', made, ran, attended, outcome, aborts, stopped⟩

end Firmware

end Coprocessor
