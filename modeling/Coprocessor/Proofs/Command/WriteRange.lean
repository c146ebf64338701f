import Coprocessor.Proofs.Command.FlatStorage
import Coprocessor.Proofs.Firmware.Containment
import Coprocessor.Proofs.Storage.Slices

/-!
Nothing on the way of a persistent write is out of range: no slice of the buffer, of the data or of a
page, no slice of the contents of the storage, and no sum of addresses. The sums are those of a page
and its length. Nobody checks them, and nobody has to: storage that ends at an address has no page
after which there is none, so it has refused the page before its address is added to.
-/
namespace Coprocessor

open Act

namespace Storage

variable {δ α : Type} {P : δ → Prop} {top : Nat}

/-- What a record shows of a device that ends by `top`: the calls that worked are about bytes before
`top`. -/
structure RecordedBy (P : δ → Prop) (top : Nat) (d : RecordedDevice δ) : Prop where
  device : P d.device
  inside : ∀ record ∈ d.calls, record.worked = true → record.call.stop ≤ top

theorem RecordedBy.fresh {d : δ} (h : P d) : RecordedBy P top (RecordedDevice.fresh d) where
  device := h
  inside record mem := by cases mem

theorem StopsBy.record {call : PageCall} {x : Act Error δ α} (h : StopsBy P top call x) :
    StopsBy (RecordedBy P top) top call (RecordedDevice.record call x) := by
  intro d hd
  rw [RecordedDevice.run_record]
  rcases run : x.run d.device with ⟨e | a, d'⟩
  · refine ⟨h.error hd.device run, fun record mem worked => ?_⟩
    rcases List.mem_append.mp mem with earlier | this
    · exact hd.inside record earlier worked
    · rw [List.mem_singleton.mp this] at worked
      cases worked
  · obtain ⟨stops, kept⟩ := h.ok hd.device run
    refine ⟨stops, kept, fun record mem worked => ?_⟩
    rcases List.mem_append.mp mem with earlier | this
    · exact hd.inside record earlier worked
    · rw [List.mem_singleton.mp this]
      exact stops

/-- A record does not move the end of a device. -/
theorem EndsBy.recorded [PageDevice δ] (h : EndsBy P top) : EndsBy (RecordedBy P top) top where
  range d hd := h.range d.device hd.device
  read addr := (h.read addr).record
  load addr page := (h.load addr page).record
  commit addr := (h.commit addr).record

/-- The calls that worked were about bytes of the storage, and there are addresses after these. -/
def CallsInside (d : PagedRam) (calls : List CallRecord) : Prop :=
  ∀ record ∈ calls, record.worked = true →
    record.call.stop ≤ d.base.toNat + d.mem.size ∧ record.call.stop ≤ 0xFFFFFFFF

theorem RecordedBy.callsInside {d : PagedRam}
    (addressable : d.base.toNat + d.mem.size < 0x100000000) {P : δ → Prop} {s : RecordedDevice δ}
    (h : RecordedBy P (d.base.toNat + d.mem.size) s) : CallsInside d s.calls := by
  intro record mem worked
  have stops := h.inside record mem worked
  exact ⟨stops, by omega⟩

/-- A write to storage that ends at an address, whatever is staged and whichever calls fail. -/
theorem write_in_range {t : TappedDevice PagedRam}
    (addressable : t.device.base.toNat + t.device.mem.size < 0x100000000) (addr : UInt32)
    (data : List UInt8) :
    ∃ r s, (write addr data).run (RecordedDevice.fresh t) = (r, s) ∧
      (write addr data).run t = (r, s.device) ∧ (∀ f, r = .error f → f.IsError) ∧
      CallsInside t.device s.calls := by
  have spans : RecordedBy (Spans t.device.base t.device.mem.size)
      (t.device.base.toNat + t.device.mem.size) (RecordedDevice.fresh t) := .fresh ⟨rfl, rfl⟩
  have total := (endsBy_spans addressable).recorded.write addressable addr data
  have same := mirrors_write addr data (RecordedDevice.fresh t)
  rcases run : (write addr data).run (RecordedDevice.fresh t) with ⟨f | done, s⟩
  · rw [run] at same
    obtain ⟨isError, recorded⟩ := total.error spans run
    refine ⟨_, s, rfl, same, ?_, recorded.callsInside addressable⟩
    rintro _ ⟨⟩
    exact isError
  · rw [run] at same
    exact ⟨_, s, rfl, same, nofun, (total.ok spans run).callsInside addressable⟩

end Storage

namespace Commands

/-- Whatever a request says, however large the window is, whatever is staged and whichever calls of
the storage fail, a persistent write stays in range. It is answered, so that neither it nor the write
to the storage has met a trap; the storage has worked on no page that reaches the end of the address
space; and what the storage does to its contents, it does with slices that lie inside them. -/
theorem persistentWrite_in_range {c : Commands (TappedDevice PagedRam)}
    (addressable : c.Addressable) (request : Packet) :
    (∃ response c', (persistentWrite request).run c.withRecord = (.ok response, c') ∧
      (persistentWrite request).run c = (.ok response, c'.bare) ∧
      Storage.CallsInside c.storage.device c'.storage.calls) ∧
    (∀ addr data, ∃ r s, (Storage.write addr data).run (RecordedDevice.fresh c.storage) = (r, s) ∧
      (Storage.write addr data).run c.storage = (r, s.device) ∧
      (∀ f, r = .error f → f.IsError) ∧ Storage.CallsInside c.storage.device s.calls) ∧
    ∀ d : PagedRam, d.SlicesInside := by
  refine ⟨?_, Storage.write_in_range addressable, PagedRam.slicesInside⟩
  have spans : Storage.RecordedBy
      (Storage.Spans c.storage.device.base c.storage.device.mem.size)
      (c.storage.device.base.toNat + c.storage.device.mem.size) c.withRecord.storage :=
    .fresh ⟨rfl, rfl⟩
  have answers := triple_persistentWrite (Storage.endsBy_spans addressable).recorded addressable
    request
  obtain ⟨response, c', run, -, recorded⟩ := answers.exists_ok spans
  have same := mirrors_persistentWrite request c.withRecord
  rw [run] at same
  exact ⟨response, c', run, same, recorded.callsInside addressable⟩

/-- Commands on storage that ends with the last address but one, in the middle of a page. -/
def onLastPages : Commands (TappedDevice PagedRam) where
  storage := .clear (.new 0xFFFFFFC0 63 7)
  window := ⟨0xFFFFFFC0, 0xFFFFFFFF, 0xFFFFFFFF⟩
  transform := CosineTransform.transform
  generator := Attractor.generate Attractor.defaultIterations
  arena := ⟨Arena.defaultBase, #[]⟩

/-- A write over the start of the last page. The page before it is stored, and the last one, after
which there is no address, is not even read. -/
theorem persistentWrite_in_range_over_last_page :
    onLastPages.Addressable ∧ ∃ c',
      (persistentWrite (Firmware.writeRequest 0xFFFFFFDE)).run onLastPages.withRecord =
        (.ok (respond .persistentWrite [0]), c') ∧
      Storage.CallsInside onLastPages.storage.device c'.storage.calls ∧
      c'.storage.calls = Storage.worked (Storage.patchPlan 0xFFFFFFC0) ++
        [⟨.read 0xFFFFFFE0 32, false⟩] := by
  have addressable : onLastPages.Addressable := by
    rw [Addressable]
    decide
  obtain ⟨⟨response, c', run, -, inside⟩, writes, -⟩ :=
    persistentWrite_in_range addressable (Firmware.writeRequest 0xFFFFFFDE)
  obtain ⟨r, s, stored, -, total, -⟩ := writes 0xFFFFFFDE [4, 3, 2, 1]
  have parsed : parseWrite onLastPages.withRecord.window (Firmware.writeRequest 0xFFFFFFDE).args =
      .ok (0xFFFFFFDE, [4, 3, 2, 1]) := by
    have args : (Firmware.writeRequest 0xFFFFFFDE).args = [0xFFFFFFDE, 4, 0x01020304] := by
      decide +kernel
    rw [args, parseWrite_of_admits (by decide) (by decide) (by decide)]
    rfl
  have fails : ((Storage.write 0xFFFFFFDE [4, 3, 2, 1]).run
      (RecordedDevice.fresh onLastPages.storage)).1.isOk = false := by decide +kernel
  have calls : ((Storage.write 0xFFFFFFDE [4, 3, 2, 1]).run
      (RecordedDevice.fresh onLastPages.storage)).2.calls =
        Storage.worked (Storage.patchPlan 0xFFFFFFC0) ++ [⟨.read 0xFFFFFFE0 32, false⟩] := by
    decide +kernel
  rw [stored] at fails calls
  cases r with
  | ok done => cases fails
  | error f =>
    obtain ⟨e, rfl⟩ := total f rfl
    have answered := run_persistentWrite_parsed (c := onLastPages.withRecord) parsed
      (run_settle_error stored rfl)
    obtain ⟨-, rfl⟩ := Prod.mk.inj (run.symm.trans answered)
    exact ⟨addressable, _, answered, inside, calls⟩

end Commands

end Coprocessor
