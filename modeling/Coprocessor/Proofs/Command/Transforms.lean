import Coprocessor.Proofs.Command.Responses
import Coprocessor.Proofs.Mailbox.Codec

/-!
Blocks as words. A block is packed into words and unpacked again without loss, in both directions,
and words that are not the block's are neither read nor written. So a transform is answered with
exactly the coefficients that the kernel computes from the samples that were sent.
-/
namespace Coprocessor

open Act

/-- A buffer that begins with some words is zero after them. -/
theorem Packet.toList_buffer {words : List UInt32} (fits : words.length ≤ maxArgs) :
    (buffer words).toList = words ++ List.replicate (maxArgs - words.length) 0 := by
  have length : (buffer words).toList.length =
      (words ++ List.replicate (maxArgs - words.length) (0 : UInt32)).length := by
    rw [Vector.length_toList, List.length_append, List.length_replicate]
    exact (Nat.add_sub_cancel' fits).symm
  refine List.ext_getElem length fun i hi _ => ?_
  simp only [buffer, Vector.getElem_toList, Vector.getElem_ofFn]
  by_cases inside : i < words.length
  · rw [List.getElem_append_left inside, List.getElem?_eq_getElem inside, Option.getD_some]
  · rw [List.getElem_append_right (Nat.le_of_not_lt inside), List.getElem_replicate,
      List.getElem?_eq_none (Nat.le_of_not_lt inside), Option.getD_none]

namespace Block8

/-! ## One word -/

theorem byte_packSamples (a b c d : Int8) (k : Nat) :
    (Word.byte (packSamples a b c d) k).toInt8 =
      #v[a, b, c, d].get ⟨k % 4, Nat.mod_lt k (by decide)⟩ := by
  rw [packSamples, Word.byte_ofBytes]
  obtain lane | lane | lane | lane :
    k % 4 = 0 ∨ k % 4 = 1 ∨ k % 4 = 2 ∨ k % 4 = 3 := by omega
  all_goals
    simp only [lane]
    rfl

theorem packSamples_byte (w : UInt32) (k : Nat) :
    packSamples (Word.byte w (4 * k)).toInt8 (Word.byte w (4 * k + 1)).toInt8
      (Word.byte w (4 * k + 2)).toInt8 (Word.byte w (4 * k + 3)).toInt8 = w := by
  have bytes : #v[Word.byte w (4 * k), Word.byte w (4 * k + 1), Word.byte w (4 * k + 2),
      Word.byte w (4 * k + 3)] = Word.toBytes w := by
    simp only [Word.byte, Nat.mul_mod_right, Nat.mul_add_mod]
    rfl
  calc packSamples _ _ _ _ = Word.ofBytes #v[Word.byte w (4 * k), Word.byte w (4 * k + 1),
        Word.byte w (4 * k + 2), Word.byte w (4 * k + 3)] := rfl
    _ = w := by rw [bytes, Word.ofBytes_toBytes]

theorem packCoefficients_half (w : UInt32) (k : Nat) :
    packCoefficients (half w (2 * k)).toInt16 (half w (2 * k + 1)).toInt16 = w := by
  rw [half, half, if_pos (by omega), if_neg (by omega)]
  -- the halves of a word are the halves of a header
  exact packHeader_unpackHeader w

/-! ## Whole blocks -/

/-- `encode` packs a block into `n` words and `decode` takes a block from the first `n` words it is
given. Nothing is lost either way, words after these are ignored, and fewer are refused. -/
structure Packs {α : Type} (n : Nat) (decode : List UInt32 → Except Error (Block8 α))
    (encode : Block8 α → Vector UInt32 n) : Prop where
  decode_encode : ∀ m extra, decode ((encode m).toList ++ extra) = .ok m
  encode_decode : ∀ words, n ≤ words.length →
    ∃ m, decode words = .ok m ∧ (encode m).toList = words.take n
  short : ∀ words, words.length < n → decode words = .error .validationFailure

/-- A codec that reads each element in a word of its own choice is lossless if each element is found
in its word and each word is made up of its elements. -/
theorem packs_of_lanes {α : Type} {n : Nat} {decode : List UInt32 → Except Error (Block8 α)}
    {encode : Block8 α → Vector UInt32 n} (word : Fin 64 → Fin n) (read : UInt32 → Fin 64 → α)
    (long : ∀ words (h : n ≤ words.length), decode words =
      .ok (ofFn fun k => read (words.get ((word k).castLE h)) k))
    (short : ∀ words, words.length < n → decode words = .error .validationFailure)
    (element : ∀ m k, read (encode m)[word k] k = m.entry k)
    (whole : ∀ words : Vector UInt32 n, encode (ofFn fun k => read words[word k] k) = words) :
    Packs n decode encode where
  decode_encode m extra := by
    have length : n ≤ ((encode m).toList ++ extra).length := by simp
    rw [long _ length]
    refine congrArg Except.ok (ext_entry fun k => ?_)
    have found : ((encode m).toList ++ extra).get ((word k).castLE length) =
        (encode m)[word k] := by
      simp
    rw [entry_ofFn, found, element]
  encode_decode words length := by
    have size : (words.take n).toArray.size = n := by simp [length]
    have found (k : Fin 64) : words.get ((word k).castLE length) =
        (Vector.mk (words.take n).toArray size)[word k] := by
      simp
    refine ⟨_, long words length, ?_⟩
    simp only [found, whole]
    rfl
  short := short

theorem packs_samples : Packs 16 samplesOfWords wordsOfSamples := by
  refine packs_of_lanes (fun k => ⟨k.val / 4, by omega⟩) (fun w k => (Word.byte w k.val).toInt8)
    (fun words long => dif_pos long) (fun words few => dif_neg (Nat.not_le.mpr few)) ?_ ?_
  · intro m k
    rw [Fin.getElem_fin, wordsOfSamples, Vector.getElem_ofFn, byte_packSamples]
    obtain lane | lane | lane | lane :
      k.val % 4 = 0 ∨ k.val % 4 = 1 ∨ k.val % 4 = 2 ∨ k.val % 4 = 3 := by omega
    all_goals
      simp only [lane]
      exact congrArg m.entry (Fin.ext (by simp only; omega))
  · intro words
    refine Vector.ext fun w hw => ?_
    have lanes : 4 * w / 4 = w ∧ (4 * w + 1) / 4 = w ∧ (4 * w + 2) / 4 = w ∧
        (4 * w + 3) / 4 = w := by
      omega
    simp only [wordsOfSamples, Vector.getElem_ofFn, entry_ofFn, Fin.getElem_fin, lanes]
    exact packSamples_byte _ w

theorem packs_coefficients : Packs 32 coefficientsOfWords wordsOfCoefficients := by
  refine packs_of_lanes (fun k => ⟨k.val / 2, by omega⟩) (fun w k => (half w k.val).toInt16)
    (fun words long => dif_pos long) (fun words few => dif_neg (Nat.not_le.mpr few)) ?_ ?_
  · intro m k
    rw [Fin.getElem_fin, wordsOfCoefficients, Vector.getElem_ofFn, half_packCoefficients]
    split
    · exact congrArg m.entry (Fin.ext (by simp only; omega))
    · exact congrArg m.entry (Fin.ext (by simp only; omega))
  · intro words
    refine Vector.ext fun w hw => ?_
    have lanes : 2 * w / 2 = w ∧ (2 * w + 1) / 2 = w := by omega
    simp only [wordsOfCoefficients, Vector.getElem_ofFn, entry_ofFn, Fin.getElem_fin, lanes]
    exact packCoefficients_half _ w

/-! ## Element by element -/

/-- The words with each element in turn put into its place: its bits are added to the word that they
belong to. -/
def gather {n : Nat} (word : Fin 64 → Fin n) (bits : Fin 64 → UInt32) (words : Vector UInt32 n)
    (elements : List (Fin 64)) : Vector UInt32 n :=
  elements.foldl (fun words k => words.set (word k) (words[word k] ||| bits k)) words

/-- A word gathers the bits of its own elements and no others. -/
theorem getElem_gather {n : Nat} (word : Fin 64 → Fin n) (bits : Fin 64 → UInt32)
    (words : Vector UInt32 n) (elements : List (Fin 64)) {w : Nat} (hw : w < n) :
    (gather word bits words elements)[w] =
      (elements.filter fun k => (word k).val = w).foldl (fun acc k => acc ||| bits k) words[w] := by
  induction elements generalizing words with
  | nil => rfl
  | cons k rest ih =>
    rw [gather, List.foldl_cons, ← gather, ih]
    by_cases own : (word k).val = w
    · simp [own]
    · simp [own]

theorem filter_samples : ∀ w (hw : w < 16),
    (List.finRange 64).filter (fun k => k.val / 4 = w) =
      [⟨4 * w, by omega⟩, ⟨4 * w + 1, by omega⟩, ⟨4 * w + 2, by omega⟩, ⟨4 * w + 3, by omega⟩] := by
  decide +kernel

theorem filter_coefficients : ∀ w (hw : w < 32),
    (List.finRange 64).filter (fun k => k.val / 2 = w) =
      [⟨2 * w, by omega⟩, ⟨2 * w + 1, by omega⟩] := by
  decide +kernel

/-- Packing samples word by word is putting one after the other into cleared words. -/
theorem wordsOfSamples_eq_gather (m : Block8 Int8) :
    m.wordsOfSamples = gather (fun k => ⟨k.val / 4, by omega⟩)
      (fun k => (m.entry k).toUInt8.toUInt32 <<< (8 * (k.val % 4)).toUInt32)
      (Vector.replicate 16 0) (List.finRange 64) := by
  refine Vector.ext fun w hw => ?_
  rw [getElem_gather, filter_samples w hw]
  simp only [List.foldl_cons, List.foldl_nil, Vector.getElem_replicate, UInt32.zero_or,
    Nat.mul_mod_right, Nat.mul_add_mod, wordsOfSamples, Vector.getElem_ofFn]
  rw [show Nat.toUInt32 (8 * 0) = 0 from rfl, UInt32.shiftLeft_zero]
  rfl

/-- Packing coefficients word by word is putting one after the other into cleared words. -/
theorem wordsOfCoefficients_eq_gather (m : Block8 Int16) :
    m.wordsOfCoefficients = gather (fun k => ⟨k.val / 2, by omega⟩)
      (fun k => (m.entry k).toUInt16.toUInt32 <<< (16 * (k.val % 2)).toUInt32)
      (Vector.replicate 32 0) (List.finRange 64) := by
  refine Vector.ext fun w hw => ?_
  rw [getElem_gather, filter_coefficients w hw]
  simp only [List.foldl_cons, List.foldl_nil, Vector.getElem_replicate, UInt32.zero_or,
    Nat.mul_mod_right, Nat.mul_add_mod, wordsOfCoefficients, Vector.getElem_ofFn]
  rw [show Nat.toUInt32 (16 * 0) = 0 from rfl, UInt32.shiftLeft_zero]
  rfl

/-! ## A buffer of coefficients -/

/-- Writes a block of coefficients over the start of the buffer that is the state. -/
def store (m : Block8 Int16) : Act Error (List UInt32) Nat := do
  let buffer ← Act.get
  let (count, after) ← Act.ofExcept id (m.placeCoefficients buffer)
  Act.modify fun _ => after
  return count

theorem run_store_long (m : Block8 Int16) {buffer : List UInt32} (long : 32 ≤ buffer.length) :
    m.store.run buffer = (.ok 32, m.wordsOfCoefficients.toList ++ buffer.drop 32) := by
  have placed : m.placeCoefficients buffer =
      .ok (32, m.wordsOfCoefficients.toList ++ buffer.drop 32) := if_pos long
  rw [store, run_get_bind, placed]
  rfl

theorem run_store_short (m : Block8 Int16) {buffer : List UInt32} (short : buffer.length < 32) :
    m.store.run buffer = (.error .invalidLength, buffer) := by
  have refused : m.placeCoefficients buffer = .error .invalidLength := if_neg (Nat.not_le.mpr short)
  rw [store, run_get_bind, refused]
  rfl

/-- A block is stored in the first 32 words of a buffer, or not at all if there are fewer. -/
structure Stores (m : Block8 Int16) (buffer : List UInt32) : Prop where
  long : 32 ≤ buffer.length → ∃ after, m.store.run buffer = (.ok 32, after) ∧
    after.length = buffer.length ∧ after.drop 32 = buffer.drop 32 ∧
      coefficientsOfWords after = .ok m
  short : buffer.length < 32 → m.store.run buffer = (.error .invalidLength, buffer)

theorem stores (m : Block8 Int16) (buffer : List UInt32) : m.Stores buffer where
  long long := by
    refine ⟨_, m.run_store_long long, by simp; omega, ?_, packs_coefficients.decode_encode m _⟩
    rw [List.drop_left' (Vector.length_toList ..)]
  short := m.run_store_short

/-- What was taken from words is stored as these words. -/
theorem take_store {m : Block8 Int16} {words buffer : List UInt32}
    (taken : coefficientsOfWords words = .ok m) (long : 32 ≤ buffer.length) :
    (m.store.run buffer).2.take 32 = words.take 32 := by
  have enough : 32 ≤ words.length := by
    refine Nat.le_of_not_lt fun few => ?_
    rw [packs_coefficients.short words few] at taken
    cases taken
  obtain ⟨m', decoded, encoded⟩ := packs_coefficients.encode_decode words enough
  cases taken.symm.trans decoded
  rw [m.run_store_long long, List.take_left' (Vector.length_toList ..), encoded]

end Block8

namespace Commands

variable {δ : Type}

/-- A request to transform a block is answered with what the kernel makes of the block; without the
words of a block the answer is empty and the same whatever the kernel is. -/
structure Transforms (c : Commands δ) (request : Packet) : Prop where
  block : ∀ m extra, request.args = m.wordsOfSamples.toList ++ extra → ∃ response,
    (offloadTransform request).run c = (.ok response, c) ∧
      response.toResponse = .ok .offloadTransform ∧ response.argLen = 32 ∧
      Block8.coefficientsOfWords response.args = .ok (c.transform m) ∧
      (c.transform m).store.run (Packet.ofResponse .offloadTransform).data.toList =
        (.ok 32, response.data.toList)
  short : request.args.length < 16 → ∃ response,
    response.toResponse = .ok .offloadTransform ∧ response.argLen = 0 ∧ response.args = [] ∧
      ∀ kernel, (offloadTransform request).run { c with transform := kernel } =
        (.ok response, { c with transform := kernel })

theorem transforms (c : Commands δ) (request : Packet) : c.Transforms request where
  block m extra args := by
    have decoded : Block8.samplesOfWords request.args = .ok m := by
      rw [args, Block8.packs_samples.decode_encode]
    have fits : (c.transform m).wordsOfCoefficients.toList.length ≤ maxArgs := by
      rw [Vector.length_toList]
      decide
    refine ⟨respond .offloadTransform (c.transform m).wordsOfCoefficients.toList, ?_, rfl, ?_, ?_,
      ?_⟩
    · rw [offloadTransform, decoded]
      rfl
    · show (c.transform m).wordsOfCoefficients.toList.length.toUInt16 = 32
      rw [Vector.length_toList]
      rfl
    · rw [args_respond fits, ← List.append_nil (Vector.toList _),
        Block8.packs_coefficients.decode_encode]
    · have data : (Packet.buffer (c.transform m).wordsOfCoefficients.toList).toList =
          (c.transform m).wordsOfCoefficients.toList ++ List.replicate 96 0 := by
        rw [Packet.toList_buffer fits, Vector.length_toList]
        rfl
      rw [Block8.run_store_long _ (by simp), respond, data]
      rfl
  short few := by
    refine ⟨respond .offloadTransform [], rfl, rfl, rfl, fun kernel => ?_⟩
    rw [offloadTransform, Block8.packs_samples.short _ few]
    rfl

/-- Blocks are packed into words and unpacked without loss and without touching other words, so a
request to transform a block is answered with the block that the kernel makes of it. -/
theorem blocks_framed_and_transformed (c : Commands δ) :
    Block8.Packs 16 Block8.samplesOfWords Block8.wordsOfSamples ∧
      Block8.Packs 32 Block8.coefficientsOfWords Block8.wordsOfCoefficients ∧
      (∀ (m : Block8 Int16) buffer, m.Stores buffer) ∧
      (∀ m words buffer, Block8.coefficientsOfWords words = .ok m → 32 ≤ buffer.length →
        (m.store.run buffer).2.take 32 = words.take 32) ∧
      ∀ request, c.Transforms request :=
  ⟨Block8.packs_samples, Block8.packs_coefficients, Block8.stores,
    fun _ _ _ => Block8.take_store, c.transforms⟩

end Commands

end Coprocessor
