import Coprocessor.Firmware
import Coprocessor.Proofs.Interrupt.Servicing

/-!
The dispatch cycle phase by phase, and the vectors of the firmware.
-/
namespace Coprocessor.Firmware

open Act

variable {μ κ δ : Type}

def enter (phase : Phase) (f : Firmware μ κ δ) : Firmware μ κ δ :=
  { f with phase }

/-- An operation on the mailbox whose errors the cycle handles. -/
theorem run_onMailbox {α : Type} {x : Act Error μ α} {f : Firmware μ κ δ} {m : μ}
    {r : Except Error α} (h : x.run f.mailbox = (r, m)) :
    ((x.within mailboxPart).attempt : Act Trap (Firmware μ κ δ) _).run f =
      (.ok r, { f with mailbox := m }) := by
  rw [run_attempt, run_within_eq h]
  rfl

variable [RegisterBus μ Error] [InterruptController κ] [PageDevice δ]

/-- What a phase does before the next one is entered. -/
def body : Phase → Act Trap (Firmware μ κ δ) Phase
  | .idle => pure .idle
  | .receiving => receiveRequest
  | .dispatching request => runCommand request
  | .responding response => sendResponse response
  | .closing outcome => close outcome

theorem advance_eq :
    (advance : Act Trap (Firmware μ κ δ) Unit) =
      gets Firmware.phase >>= fun phase => body phase >>= fun next => modify (enter next) := by
  simp only [advance]
  congr 1
  funext phase
  cases phase <;> rfl

/-! ## Running phases -/

theorem run_advance {f g : Firmware μ κ δ} {phase next : Phase} (here : f.phase = phase)
    (h : (body phase).run f = (.ok next, g)) : advance.run f = (.ok (), enter next g) := by
  rw [advance_eq, run_gets_bind, here, run_bind_ok h, run_modify]

theorem run_advance_trap {f g : Firmware μ κ δ} {phase : Phase} {t : Trap} (here : f.phase = phase)
    (h : (body phase).run f = (.error t, g)) : advance.run f = (.error t, g) := by
  rw [advance_eq, run_gets_bind, here, run_bind_error h]

theorem run_advances_idle {f : Firmware μ κ δ} (idle : f.phase = .idle) (n : Nat) :
    (advances n).run f = (.ok (), f) := by
  induction n with
  | zero => rfl
  | succ n ih =>
    have stays : (body .idle).run f = (.ok .idle, f) := rfl
    -- an idle phase enters the idle phase
    have same : enter .idle f = f := by rw [enter, ← idle]
    rw [advances, run_bind_ok (run_advance idle stays), same]
    exact ih

/-- The firmware at the end of a cycle: the interrupt is cleared and the outcome recorded. -/
def concluded (outcome : CycleOutcome) (f : Firmware μ κ δ) : Firmware μ κ δ :=
  { f with
    controller :=
      ((InterruptController.clearPending .mailboxAvailable : Act Empty κ Unit).run f.controller).2
    lastOutcome := some outcome
    phase := .idle }

theorem run_advances_closing {f : Firmware μ κ δ} {outcome : CycleOutcome}
    (closing : f.phase = .closing outcome) (n : Nat) :
    (advances (n + 1)).run f = (.ok (), f.concluded outcome) := by
  obtain ⟨done, cleared⟩ := exists_run_sure (ε := Trap)
    (InterruptController.clearPending .mailboxAvailable : Act Empty κ Unit) f.controller
  have closes : (body (.closing outcome)).run f =
      (.ok .idle, { f.concluded outcome with phase := f.phase }) := by
    rw [body, close, run_bind_ok (run_within_eq cleared), run_modify_bind, run_pure]
    rfl
  rw [advances, run_bind_ok (run_advance closing closes)]
  exact run_advances_idle rfl n

/-- How a cycle ends that has a response to send. -/
def sendOutcome (response : Packet) : Except Error Nat → CycleOutcome
  | .ok len => .responded response.opcode len
  | .error e => .responseFailed e

theorem run_advances_responding {f : Firmware μ κ δ} {response : Packet} {m : μ}
    {sent : Except Error Nat} (responding : f.phase = .responding response)
    (h : (Transfer.send response).run f.mailbox = (sent, m)) (n : Nat) :
    (advances (n + 2)).run f =
      (.ok (), { f with mailbox := m }.concluded (sendOutcome response sent)) := by
  have sends : (body (.responding response)).run f =
      (.ok (.closing (sendOutcome response sent)), { f with mailbox := m }) := by
    rw [body, sendResponse, run_bind_ok (run_onMailbox h)]
    cases sent with
    | ok len => rfl
    | error e => rfl
  rw [advances, run_bind_ok (run_advance responding sends), run_advances_closing rfl]
  rfl

/-- What a cycle does with a request that it received, up to the outcome. The interrupt controller
has no part in it. -/
def answer (request : Packet) : Act Trap (μ × Commands δ) CycleOutcome :=
  match request.toRequest with
  | .error _ => pure (.ignored request.opcode)
  | .ok op =>
    match Commands.handler? op with
    | none => pure (.ignored request.opcode)
    | some handler => do
      let response ← (handler request).within fun (m, c) => (c, fun c => (m, c))
      let sent ← ((Transfer.send response).within fun (m, c) => (m, fun m => (m, c))).attempt
      return sendOutcome response sent

def withParts (f : Firmware μ κ δ) (parts : μ × Commands δ) : Firmware μ κ δ :=
  { f with mailbox := parts.1, commands := parts.2 }

/-! ## Answering -/

omit [RegisterBus μ Error] in
theorem unknown_or_handled (request : Packet) :
    (∀ op, request.toRequest = .ok op → Commands.handler? (δ := δ) op = none) ∨
      ∃ op handler, request.toRequest = .ok op ∧
        Commands.handler? (δ := δ) op = some handler := by
  cases known : request.toRequest with
  | error e => exact Or.inl nofun
  | ok op =>
    cases found : Commands.handler? (δ := δ) op with
    | none =>
      refine Or.inl fun other same => ?_
      cases same
      exact found
    | some handler => exact Or.inr ⟨op, handler, rfl, found⟩

theorem run_answer_ignored (request : Packet) (parts : μ × Commands δ)
    (unknown : ∀ op, request.toRequest = .ok op → Commands.handler? (δ := δ) op = none) :
    (answer request).run parts = (.ok (.ignored request.opcode), parts) := by
  rw [answer]
  cases known : request.toRequest with
  | error e => rfl
  | ok op =>
    dsimp only
    rw [unknown op known]
    rfl

/-- The handler runs, and what it answers is sent. -/
theorem run_answer_handled {request : Packet} {op : Request}
    {handler : Packet → Act Trap (Commands δ) Packet} (known : request.toRequest = .ok op)
    (found : Commands.handler? op = some handler) (m : μ) (c : Commands δ) :
    (answer request).run (m, c) =
      match (handler request).run c with
      | (.error t, c') => (.error t, m, c')
      | (.ok response, c') =>
        match (Transfer.send response).run m with
        | (sent, m') => (.ok (sendOutcome response sent), m', c') := by
  rw [answer, known]
  dsimp only
  rw [found]
  dsimp only
  rcases handled : (handler request).run c with ⟨t | response, c'⟩
  · have traps : ((handler request).within fun (m, c) => (c, fun c => (m, c)) :
        Act Trap (μ × Commands δ) Packet).run (m, c) = (.error t, m, c') := run_within_eq handled
    rw [run_bind_error traps]
  · have handles : ((handler request).within fun (m, c) => (c, fun c => (m, c)) :
        Act Trap (μ × Commands δ) Packet).run (m, c) = (.ok response, m, c') := run_within_eq handled
    rcases sent : (Transfer.send response).run m with ⟨result, m'⟩
    have sends : (((Transfer.send response).within fun (m, c) => (m, fun m => (m, c))).attempt :
        Act Trap (μ × Commands δ) (Except Error Nat)).run (m, c') = (.ok result, m', c') := by
      rw [run_attempt, run_within_eq sent]
    rw [run_bind_ok handles, run_bind_ok sends]
    dsimp only
    rw [sent, run_pure]

theorem run_answer_responded {request response : Packet} {op : Request}
    {handler : Packet → Act Trap (Commands δ) Packet} {c c' : Commands δ} {m m' : μ} {len : Nat}
    (known : request.toRequest = .ok op) (found : Commands.handler? op = some handler)
    (handled : (handler request).run c = (.ok response, c'))
    (sent : (Transfer.send response).run m = (.ok len, m')) :
    (answer request).run (m, c) = (.ok (.responded response.opcode len), m', c') := by
  rw [run_answer_handled known found, handled]
  dsimp only
  rw [sent]
  rfl

/-- What a send keeps of a mailbox, an answer keeps. -/
theorem keeps_answer {P : μ → Prop}
    (sends : ∀ response, Keeps P (Transfer.send response : Act Error μ Nat)) (request : Packet) :
    Keeps (fun parts : μ × Commands δ => P parts.1) (answer request) := by
  rw [answer]
  cases request.toRequest with
  | error e => exact Keeps.pure _
  | ok op =>
    dsimp only
    cases Commands.handler? (δ := δ) op with
    | none => exact Keeps.pure _
    | some handler =>
      refine (Keeps.beside (fun _ _ kept => kept) _).bind fun response => ?_
      refine Keeps.bind (Keeps.attempt ?_) fun sent => Keeps.pure _
      refine (sends response).within ?_ ?_
      · intro parts kept
        exact kept
      · intro parts m _ kept
        exact kept

omit [RegisterBus μ Error] [InterruptController κ] in
theorem run_runCommand_ignored {request : Packet} (f : Firmware μ κ δ)
    (unknown : ∀ op, request.toRequest = .ok op → Commands.handler? (δ := δ) op = none) :
    (runCommand request).run f = (.ok (.closing (.ignored request.opcode)), f) := by
  rw [runCommand]
  cases known : request.toRequest with
  | error e => rfl
  | ok op =>
    dsimp only
    rw [unknown op known]
    rfl

/-- From dispatching on, the phases do what `answer` does and conclude. -/
theorem run_advances_dispatching {f : Firmware μ κ δ} {request : Packet}
    (dispatching : f.phase = .dispatching request) (n : Nat) :
    (advances (n + 3)).run f =
      match (answer request).run (f.mailbox, f.commands) with
      | (.ok outcome, parts) => (.ok (), (f.withParts parts).concluded outcome)
      | (.error t, parts) => (.error t, f.withParts parts) := by
  obtain unknown | ⟨op, handler, known, found⟩ := unknown_or_handled (δ := δ) request
  · have ignored : (body (.dispatching request)).run f =
        (.ok (.closing (.ignored request.opcode)), f) := run_runCommand_ignored f unknown
    rw [run_answer_ignored _ _ unknown, advances, run_bind_ok (run_advance dispatching ignored),
      run_advances_closing rfl]
    rfl
  have runs : (body (.dispatching request)).run f =
      ((handler request).within commandsPart >>= fun r => pure (.responding r)).run f := by
    rw [body, runCommand, known]
    dsimp only
    rw [found]
  rw [run_answer_handled known found, advances]
  rcases handled : (handler request).run f.commands with ⟨t | response, c⟩
  · have traps : ((handler request).within commandsPart).run f =
        (.error t, { f with commands := c }) := run_within_eq handled
    rw [run_bind_error traps] at runs
    rw [run_bind_error (run_advance_trap dispatching runs)]
    rfl
  · have responds : ((handler request).within commandsPart).run f =
        (.ok response, { f with commands := c }) := run_within_eq handled
    rw [run_bind_ok responds, run_pure] at runs
    rcases sent : (Transfer.send response).run f.mailbox with ⟨result, m⟩
    have answers : (advances (n + 2)).run (enter (.responding response) { f with commands := c }) =
        (.ok (), (f.withParts (m, c)).concluded (sendOutcome response result)) :=
      run_advances_responding (f := enter (.responding response) { f with commands := c })
        rfl sent n
    rw [run_bind_ok (run_advance dispatching runs), answers]
    dsimp only
    rw [sent]

/-- The firmware at the end of a cycle that took the mailbox and the commands to `parts`. -/
def finished (f : Firmware μ κ δ) (parts : μ × Commands δ) (outcome : CycleOutcome) :
    Firmware μ κ δ :=
  ({ f with cycles := f.cycles + 1 }.withParts parts).concluded outcome

/-- A dispatch cycle: receive, answer, and conclude whatever the outcome. -/
theorem run_runCycle (f : Firmware μ κ δ) :
    runCycle.run f =
      match (Transfer.receiveFresh : Act Error μ Packet).run f.mailbox with
      | (.error e, m) => (.ok (), f.finished (m, f.commands) (.requestFailed e))
      | (.ok request, m) =>
        match (answer request).run (m, f.commands) with
        | (.ok outcome, parts) => (.ok (), f.finished parts outcome)
        | (.error t, parts) =>
          (.error t, { f with
            phase := .dispatching request
            cycles := f.cycles + 1 }.withParts parts) := by
  let g : Firmware μ κ δ := { f with phase := .receiving, cycles := f.cycles + 1 }
  have begun : runCycle.run f = (advances 4).run g := by
    rw [runCycle, begin, run_modify_bind]
  rw [begun, advances]
  rcases received : (Transfer.receiveFresh : Act Error μ Packet).run f.mailbox with
    ⟨e | request, m⟩
  · have attempted := run_onMailbox (f := g) received
    have fails : (body .receiving).run g =
        (.ok (.closing (.requestFailed e)), { g with mailbox := m }) := by
      rw [body, receiveRequest, run_bind_ok attempted]
      rfl
    rw [run_bind_ok (run_advance rfl fails), run_advances_closing rfl]
    rfl
  · have attempted := run_onMailbox (f := g) received
    have receives : (body .receiving).run g =
        (.ok (.dispatching request), { g with mailbox := m }) := by
      rw [body, receiveRequest, run_bind_ok attempted]
      rfl
    rw [run_bind_ok (run_advance rfl receives), run_advances_dispatching rfl 0]
    rfl

/-- The vectors are those of the two interrupts, in the order in which they are serviced. -/
theorem vectorTable_eq (priority : UInt8) :
    (vectorTable priority : Except Error (VectorTable Trap (Firmware μ κ δ))) =
      .ok ⟨[⟨.mailboxAvailable, priority, service .mailboxAvailable⟩,
        ⟨.mailboxAbort, priority, service .mailboxAbort⟩]⟩ := by
  have order : InterruptVector.before (⟨.mailboxAbort, priority, serviceAbort⟩ :
      InterruptVector Trap (Firmware μ κ δ)) ⟨.mailboxAvailable, priority, runCycle⟩ = false := by
    simp [InterruptVector.before, Source.number]
  have first : (VectorTable.empty : VectorTable Trap (Firmware μ κ δ)).register
      ⟨.mailboxAvailable, priority, runCycle⟩ =
        .ok ⟨[⟨.mailboxAvailable, priority, runCycle⟩]⟩ :=
    VectorTable.register_eq_ok nofun nofun
  have second : (⟨[⟨.mailboxAvailable, priority, runCycle⟩]⟩ :
      VectorTable Trap (Firmware μ κ δ)).register ⟨.mailboxAbort, priority, serviceAbort⟩ =
        .ok ⟨InterruptVector.insert ⟨.mailboxAbort, priority, serviceAbort⟩
          [⟨.mailboxAvailable, priority, runCycle⟩]⟩ :=
    VectorTable.register_eq_ok (fun w mem => by cases List.mem_singleton.mp mem; nofun) nofun
  rw [vectorTable, first]
  refine second.trans ?_
  simp only [InterruptVector.insert, order]
  rfl

end Coprocessor.Firmware
