import Coprocessor.Proofs.Act.Mirrors
import Coprocessor.Proofs.Storage.StalePages

/-!
Devices with a record of the calls made of them. The device under the record may answer as it likes.
Which calls a write makes depends only on its range: it carries out a plan, and stops at the first
call that fails.
-/
namespace Coprocessor

open Act

/-- A call of a page device and whether it worked. -/
structure CallRecord where
  call : PageCall
  worked : Bool
  deriving DecidableEq

/-- A device and the calls that were made of it, the oldest first. -/
structure RecordedDevice (δ : Type) where
  device : δ
  calls : List CallRecord

namespace RecordedDevice

variable {δ α : Type}

/-- A device with an empty record. -/
def fresh (device : δ) : RecordedDevice δ :=
  ⟨device, []⟩

def record (call : PageCall) (x : Act Error δ α) : Act Error (RecordedDevice δ) α
  | ⟨device, calls⟩ =>
    match x device with
    | ⟨result, device, events⟩ => ⟨result, ⟨device, calls ++ [⟨call, result.isOk⟩]⟩, events⟩

instance [PageDevice δ] : PageDevice (RecordedDevice δ) where
  range d := PageDevice.range d.device
  read addr len := record (.read addr len) (PageDevice.read addr len)
  load addr page := record (.load addr) (PageDevice.load addr page)
  commit addr := record (.commit addr) (PageDevice.commit addr)

theorem run_record (call : PageCall) (x : Act Error δ α) (d : RecordedDevice δ) :
    (record call x).run d =
      ((x.run d.device).1, ⟨(x.run d.device).2, d.calls ++ [⟨call, (x.run d.device).1.isOk⟩]⟩) :=
  rfl

theorem mirrors_record (call : PageCall) (x : Act Error δ α) : Mirrors device (record call x) x :=
  fun _ => rfl

end RecordedDevice

namespace Storage

theorem congruence_mirrors {δ : Type} [PageDevice δ] :
    Congruence fun {α} (x : Act Failure (RecordedDevice δ) α) (y : Act Failure δ α) =>
      Mirrors RecordedDevice.device x y where
  pure := Mirrors.pure
  fail := Mirrors.fail
  log := Mirrors.log
  checked := Mirrors.ofExcept Failure.trap
  bind := Mirrors.bind
  range := Mirrors.gets fun _ => rfl
  read addr := (RecordedDevice.mirrors_record (.read addr pageSize) _).mapFailure Failure.error
  load addr _ := (RecordedDevice.mirrors_record (.load addr) _).mapFailure Failure.error
  commit addr := (RecordedDevice.mirrors_record (.commit addr) _).mapFailure Failure.error

/-- A write to a device with a record is a write to the device. -/
theorem mirrors_write {δ : Type} [PageDevice δ] (addr : UInt32) (data : List UInt8) :
    Mirrors RecordedDevice.device (write addr data) (write addr data : Act _ δ _) :=
  congruence_mirrors.write addr data

/-! ## Plans -/

/-- The calls that patch a page. -/
def patchPlan (addr : UInt32) : List PageCall :=
  [.read addr pageSize, .load addr, .commit addr]

/-- The calls of the paging loop with `n` whole pages and `len` bytes to go. -/
def pagesPlan : Nat → UInt32 → Option UInt32 → Nat → List PageCall
  | 0, addr, batch, len =>
    (batch.map PageCall.commit).toList ++ if len = 0 then [] else patchPlan addr
  | n + 1, addr, batch, len =>
    .load addr :: (if endsBlock addr then [.commit (batch.getD addr)] else []) ++
      pagesPlan n (addr + 32) (if endsBlock addr then none else some (batch.getD addr))
        (len - pageSize)

/-- The calls of a write of `len` bytes at `addr`. -/
def writePlan (addr : UInt32) (len : Nat) : List PageCall :=
  let left := len - (pageSize - addr.toNat % pageSize)
  patchPlan (pageOf addr) ++ pagesPlan (wholePages left) (pageOf addr + 32) none left

/-- The record of calls that all worked. -/
def worked (calls : List PageCall) : List CallRecord :=
  calls.map fun call => ⟨call, true⟩

@[simp] theorem calls_worked (calls : List PageCall) :
    (worked calls).map CallRecord.call = calls := by
  rw [worked, List.map_map]
  exact List.map_id calls

theorem worked_of_mem {calls : List PageCall} {record : CallRecord}
    (mem : record ∈ worked calls) : record.worked = true := by
  obtain ⟨call, -, rfl⟩ := List.mem_map.mp mem
  rfl

/-- What is recorded where a plan is not carried out: an error is that of its last call, and a trap
comes between two calls. -/
def StoppedAt (plan : List PageCall) (made : List CallRecord) : Failure → Prop
  | .error _ => ∃ before call after, plan = before ++ call :: after ∧
    made = worked before ++ [⟨call, false⟩]
  | .trap _ => ∃ before after, plan = before ++ after ∧ made = worked before

section Plans

variable {δ α β : Type}

/-- On every device the action makes the calls of the plan, up to the first that fails. -/
def CarriesOut (plan : List PageCall) (x : Act Failure (RecordedDevice δ) α) : Prop :=
  ∀ earlier, Triple (fun d => d.calls = earlier) x (fun _ d => d.calls = earlier ++ worked plan)
    fun f d => ∃ made, d.calls = earlier ++ made ∧ StoppedAt plan made f

theorem StoppedAt.append {plan : List PageCall} {made : List CallRecord} {f : Failure}
    (h : StoppedAt plan made f) (later : List PageCall) : StoppedAt (plan ++ later) made f := by
  cases f with
  | error e =>
    obtain ⟨before, call, after, rfl, rfl⟩ := h
    exact ⟨before, call, after ++ later, by simp, rfl⟩
  | trap t =>
    obtain ⟨before, after, rfl, rfl⟩ := h
    exact ⟨before, after ++ later, by simp, rfl⟩

theorem StoppedAt.after {plan : List PageCall} {made : List CallRecord} {f : Failure}
    (h : StoppedAt plan made f) (earlier : List PageCall) :
    StoppedAt (earlier ++ plan) (worked earlier ++ made) f := by
  cases f with
  | error e =>
    obtain ⟨before, call, after, rfl, rfl⟩ := h
    exact ⟨earlier ++ before, call, after, by simp, by simp [worked]⟩
  | trap t =>
    obtain ⟨before, after, rfl, rfl⟩ := h
    exact ⟨earlier ++ before, after, by simp, by simp [worked]⟩

namespace CarriesOut

theorem pure (a : α) : CarriesOut [] (Pure.pure a : Act Failure (RecordedDevice δ) α) :=
  fun earlier _ calls => calls.trans (List.append_nil earlier).symm

theorem checked (x : Except Trap α) :
    CarriesOut [] (Storage.checked x : Act Failure (RecordedDevice δ) α) := by
  intro earlier d calls
  rw [run_checked]
  cases x with
  | ok a => exact calls.trans (List.append_nil earlier).symm
  | error t => exact ⟨[], calls.trans (List.append_nil earlier).symm, [], [], rfl, rfl⟩

theorem bind {plan plan' : List PageCall} {x : Act Failure (RecordedDevice δ) α}
    {f : α → Act Failure (RecordedDevice δ) β} (hx : CarriesOut plan x)
    (hf : ∀ a, CarriesOut plan' (f a)) : CarriesOut (plan ++ plan') (x >>= f) := by
  intro earlier
  refine Triple.bind ((hx earlier).mono (fun _ h => h) (fun _ _ h => h) ?_) fun a => ?_
  · rintro e d ⟨made, calls, stopped⟩
    exact ⟨made, calls, stopped.append plan'⟩
  · refine (hf a (earlier ++ worked plan)).mono (fun _ h => h) ?_ ?_
    · intro b d calls
      rw [calls, worked, worked, worked, List.map_append, List.append_assoc]
    · rintro e d ⟨made, calls, stopped⟩
      exact ⟨worked plan ++ made, by rw [calls, List.append_assoc], stopped.after plan⟩

theorem ite {plan plan' : List PageCall} (c : Prop) [Decidable c]
    {x y : Act Failure (RecordedDevice δ) α} (yes : CarriesOut plan x) (no : CarriesOut plan' y) :
    CarriesOut (if c then plan else plan') (if c then x else y) := by
  split
  · exact yes
  · exact no

theorem call (call : PageCall) (x : Act Error δ α) :
    CarriesOut [call] (onDevice (RecordedDevice.record call x)) := by
  rintro earlier d rfl
  rw [run_onDevice (RecordedDevice.run_record call x d)]
  cases (x.run d.device).1 with
  | ok a => exact rfl
  | error e => exact ⟨_, rfl, [], call, [], rfl, rfl⟩

/-- What follows on the page at `addr` follows on from the next page, or traps. -/
theorem next {plan : List PageCall} {addr : UInt32} {f : UInt32 → Act Failure (RecordedDevice δ) α}
    (h : CarriesOut plan (f (addr + 32))) :
    CarriesOut plan (Storage.checked (checkedAdd addr 32) >>= f) := by
  cases sum : checkedAdd addr 32 with
  | ok next =>
    obtain ⟨-, rfl⟩ := checkedAdd_eq_ok_iff.mp sum
    exact h
  | error t =>
    intro earlier d calls
    exact ⟨[], calls.trans (List.append_nil earlier).symm, [], plan, rfl, rfl⟩

end CarriesOut

/-! ## Writes carry out their plans -/

variable [PageDevice δ]

theorem carriesOut_patchPage (addr : UInt32) (offset : Nat) (bytes : List UInt8) :
    CarriesOut (patchPlan addr)
      (patchPage addr offset bytes : Act Failure (RecordedDevice δ) Unit) := by
  have plan : patchPlan addr =
      [.read addr pageSize] ++ ([] ++ ([.load addr] ++ [.commit addr])) := rfl
  rw [plan]
  refine (CarriesOut.call _ _).bind fun page => (CarriesOut.checked _).bind fun merged => ?_
  exact (CarriesOut.call _ _).bind fun _ => CarriesOut.call _ _

theorem carriesOut_writePages (n : Nat) (addr : UInt32) (batch : Option UInt32)
    (bytes : List UInt8) :
    CarriesOut (pagesPlan n addr batch bytes.length)
      (writePages n addr batch bytes : Act Failure (RecordedDevice δ) Unit) := by
  induction n generalizing addr batch bytes with
  | zero =>
    have last : CarriesOut (if bytes.length = 0 then [] else patchPlan addr)
        (if bytes.isEmpty then pure () else patchPage addr 0 bytes :
          Act Failure (RecordedDevice δ) Unit) := by
      cases bytes with
      | nil => exact CarriesOut.pure ()
      | cons b rest => exact carriesOut_patchPage addr 0 (b :: rest)
    cases batch with
    | none => exact last
    | some first => exact (CarriesOut.call (.commit first) _).bind fun _ => last
  | succ n ih =>
    have left : bytes.length - pageSize = (bytes.drop pageSize).length := List.length_drop.symm
    rw [writePages_succ, pagesPlan, left, List.cons_append]
    refine (CarriesOut.call (.load addr) _).bind fun _ => ?_
    refine (CarriesOut.ite _ (CarriesOut.call (.commit _) _) (CarriesOut.pure ())).bind fun _ => ?_
    exact CarriesOut.next (ih _ _ _)

theorem carriesOut_writeFrom (addr : UInt32) (data : List UInt8) :
    CarriesOut (writePlan addr data.length)
      (writeFrom addr data : Act Failure (RecordedDevice δ) Unit) := by
  have left : data.length - (pageSize - addr.toNat % pageSize) =
      (data.drop (firstLength addr data)).length := by
    rw [List.length_drop, firstLength]
    omega
  rw [writeFrom_eq, writePlan, left]
  refine (carriesOut_patchPage _ _ _).bind fun _ => CarriesOut.next ?_
  exact carriesOut_writePages _ _ _ _

/-- A write whose range passes makes the calls of its plan, up to the first that fails. -/
theorem triple_write_calls {s : RecordedDevice δ} {addr : UInt32} {data : List UInt8}
    (some : data ≠ []) (passed : (checkRange addr data.length).run s = (.ok (), s)) :
    Triple (fun d => d = s) (write addr data)
      (fun _ d => d.calls = s.calls ++ worked (writePlan addr data.length))
      fun f d => ∃ made, d.calls = s.calls ++ made ∧
        StoppedAt (writePlan addr data.length) made f := by
  cases data with
  | nil => exact absurd rfl some
  | cons b rest =>
    have logs : CarriesOut [] (Act.log (.bytesStored (b :: rest).length addr) :
        Act Failure (RecordedDevice δ) Unit) :=
      fun earlier _ calls => calls.trans (List.append_nil earlier).symm
    have paged := (carriesOut_writeFrom (δ := δ) addr (b :: rest)).bind fun _ => logs
    rw [List.append_nil] at paged
    rintro d rfl
    rw [write, run_bind_ok passed]
    exact paged d.calls d rfl

end Plans

end Storage

end Coprocessor
