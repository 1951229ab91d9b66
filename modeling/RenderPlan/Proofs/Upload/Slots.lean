import RenderPlan.Proofs.Upload.Replay

/-! Values in the bytes of a buffer. A value takes four bytes, the least significant first, and is
read back from them. Writes that do not overlap leave each other's values and all other bytes
alone. -/
namespace RenderPlan

namespace HostValue

/-- The number of 32 bits that stands for a value: 0 or 1 for a truth value, the two's complement for
a signed integer, the bit pattern for a floating-point number. -/
def encoding : HostValue → ℕ
  | bool b => b.toNat
  | int i => (i.toInt % 4294967296).toNat
  | uint n => n.toNat
  | float x => x.bits.toNat

/-- The value of a kind that a number stands for. -/
def decode? : Scalar → ℕ → Option HostValue
  | .bool, n => if n = 0 then some (bool false) else if n = 1 then some (bool true) else none
  | .int, n => some (int (Int32.ofNat n))
  | .uint, n => some (uint (UInt32.ofNat n))
  | .float, n => some (float ⟨UInt32.ofNat n⟩)

@[simp] lemma toNat_word (v : HostValue) : v.word.toNat = v.encoding := by
  cases v with
  | bool b => cases b <;> rfl
  | int i =>
    have hmod : i.toInt % ((4294967296 : ℕ) : ℤ) = i.toUInt32.toNat % ((4294967296 : ℕ) : ℤ) := by
      rw [Int32.toInt, BitVec.toInt_eq_toNat_bmod]
      exact Int.bmod_emod
    have hlt := i.toUInt32.toNat_lt
    simp only [word, encoding]
    omega
  | uint n => rfl
  | float x => rfl

/-- No two values of a kind are encoded alike. -/
@[simp] lemma decode?_encoding (v : HostValue) : decode? v.scalar v.encoding = some v := by
  cases v with
  | bool b => cases b <;> rfl
  | int i =>
    have hofNat : Int32.ofNat i.toUInt32.toNat = i := by
      apply Int32.toBitVec_inj.1
      exact (BitVec.ofNat_toNat 32 i.toBitVec).trans (BitVec.setWidth_eq _)
    rw [← toNat_word]
    exact congrArg (fun j => some (int j)) hofNat
  | uint n => simp [decode?, scalar, encoding]
  | float x => simp [decode?, scalar, encoding]

end HostValue

/-- The number in the four bytes from `offset` on, the least significant first. -/
def numberAt? (dest : Array UInt8) (offset : ℕ) : Option ℕ := do
  let a ← dest[offset]?
  let b ← dest[offset + 1]?
  let c ← dest[offset + 2]?
  let d ← dest[offset + 3]?
  return a.toNat + 256 * b.toNat + 65536 * c.toNat + 16777216 * d.toNat

/-- The bytes of the write hold a value of its kind, which is read back from there. -/
structure ScalarWrite.Holds (dest : Array UInt8) (w : ScalarWrite) (v : HostValue) : Prop where
  kind : v.scalar = w.scalar
  bytes : ∀ i < 4, dest[w.offset + i]? = some (UInt8.ofNat (v.encoding >>> (8 * i)))
  readBack : (numberAt? dest w.offset).bind (HostValue.decode? w.scalar) = some v

/-- `after` holds the values of the writes, and all other bytes are as in `before`. -/
structure Uploaded (before after : Array UInt8) (ws : List ScalarWrite) (vs : List HostValue) :
    Prop where
  size_eq : after.size = before.size
  held : List.Forall₂ (ScalarWrite.Holds after) ws vs
  kept : ∀ byte, (∀ w ∈ ws, ¬ w.Covers byte) → after[byte]? = before[byte]?

section Bytes
variable {dest : Array UInt8} {offset i : ℕ} {bytes : List UInt8} {w : ScalarWrite} {v : HostValue}

lemma getElem?_writeBytes_outside (h : i < offset ∨ offset + bytes.length ≤ i) :
    (writeBytes dest offset bytes)[i]? = dest[i]? := by
  induction bytes generalizing dest offset with
  | nil => rfl
  | cons b bytes ih =>
    rw [List.length_cons] at h
    rw [writeBytes, ih (by omega), Array.getElem?_setIfInBounds_ne (by omega)]

lemma getElem?_writeBytes_inside (hi : i < bytes.length) (hd : offset + bytes.length ≤ dest.size) :
    (writeBytes dest offset bytes)[offset + i]? = bytes[i]? := by
  induction bytes generalizing dest offset i with
  | nil => cases hi
  | cons b bytes ih =>
    rw [List.length_cons] at hi hd
    rw [writeBytes]
    cases i with
    | zero =>
      rw [getElem?_writeBytes_outside (by omega), Nat.add_zero, List.getElem?_cons_zero]
      exact Array.getElem?_setIfInBounds_self_of_lt (by omega)
    | succ i =>
      have hrest : offset + 1 + bytes.length ≤ (dest.setIfInBounds offset b).size := by
        rw [Array.size_setIfInBounds]
        omega
      rw [List.getElem?_cons_succ, ← ih (by omega) hrest]
      congr 1
      omega

lemma getElem?_wordBytes (n : UInt32) (h : i < 4) :
    (wordBytes n)[i]? = some (UInt8.ofNat (n.toNat >>> (8 * i))) := by
  have hshift (k : UInt32) : (n >>> k).toUInt8 = UInt8.ofNat (n.toNat >>> (k.toNat % 32)) := by
    rw [← UInt32.toNat_shiftRight]
    rfl
  have hbytes : wordBytes n = (List.range 4).map fun i => UInt8.ofNat (n.toNat >>> (8 * i)) := by
    simp only [wordBytes, hshift]
    rfl
  rw [hbytes, List.getElem?_map, List.getElem?_range h]
  rfl

/-- Four bytes of a number of 32 bits make up the number. -/
lemma numberAt?_eq {n : ℕ} (hn : n < 4294967296)
    (h : ∀ i < 4, dest[offset + i]? = some (UInt8.ofNat (n >>> (8 * i)))) :
    numberAt? dest offset = some n := by
  have h0 := h 0 (by decide)
  have h1 := h 1 (by decide)
  have h2 := h 2 (by decide)
  have h3 := h 3 (by decide)
  rw [Nat.add_zero] at h0
  simp only [numberAt?, h0, h1, h2, h3, Option.pure_def, Option.bind_eq_bind, Option.bind_some,
    Option.some.injEq, UInt8.toNat_ofNat', Nat.shiftRight_eq_div_pow]
  omega

namespace ScalarWrite

lemma holds_of_bytes (hk : v.scalar = w.scalar)
    (h : ∀ i < 4, dest[w.offset + i]? = some (UInt8.ofNat (v.encoding >>> (8 * i)))) :
    w.Holds dest v := by
  have hlt : v.encoding < 4294967296 := by
    rw [← v.toNat_word]
    exact v.word.toNat_lt
  refine ⟨hk, h, ?_⟩
  rw [numberAt?_eq hlt h, Option.bind_some, ← hk, v.decode?_encoding]

/-- A value that is written inside the buffer is there. -/
lemma holds_writeBytes (hk : v.scalar = w.scalar) (hw : w.LiesIn dest.size) :
    w.Holds (writeBytes dest w.offset (wordBytes v.word)) v := by
  obtain ⟨hwidth, hin⟩ := hw
  refine holds_of_bytes hk fun i hi => ?_
  rw [getElem?_writeBytes_inside hi (by rw [hwidth] at hin; exact hin), getElem?_wordBytes _ hi,
    v.toNat_word]

lemma getElem?_writeBytes (hw : w.LiesIn dest.size) (hi : ¬ w.Covers i) (v : HostValue) :
    (writeBytes dest w.offset (wordBytes v.word))[i]? = dest[i]? := by
  apply getElem?_writeBytes_outside
  have hwidth := hw.1
  have hlength : (wordBytes v.word).length = 4 := rfl
  simp only [Covers] at hi
  omega

/-- A held value stays where its bytes stay. -/
lemma Holds.of_eq {dest' : Array UInt8} (h : w.Holds dest v) (hwidth : w.width = 4)
    (heq : ∀ byte, w.Covers byte → dest'[byte]? = dest[byte]?) : w.Holds dest' v := by
  refine holds_of_bytes h.kind fun i hi => ?_
  rw [heq (w.offset + i) ⟨by omega, by omega⟩]
  exact h.bytes i hi

end ScalarWrite

namespace Uploaded
variable {after : Array UInt8} {ws : List ScalarWrite} {vs : List HostValue}

lemma nil (dest : Array UInt8) : Uploaded dest dest [] [] := ⟨rfl, .nil, fun _ _ => rfl⟩

/-- Later writes that keep off the first one leave its value in place. -/
lemma cons (hk : v.scalar = w.scalar) (hw : w.LiesIn dest.size)
    (hapart : ∀ w' ∈ ws, w.Apart w')
    (h : Uploaded (writeBytes dest w.offset (wordBytes v.word)) after ws vs) :
    Uploaded dest after (w :: ws) (v :: vs) := by
  refine ⟨by rw [h.size_eq, size_writeBytes], .cons ?_ h.held, fun byte hb => ?_⟩
  · refine (ScalarWrite.holds_writeBytes hk hw).of_eq hw.1 fun byte hb => ?_
    exact h.kept byte fun w' hw' => hapart w' hw' byte hb
  · obtain ⟨hfirst, hrest⟩ := List.forall_mem_cons.1 hb
    rw [h.kept byte hrest, ScalarWrite.getElem?_writeBytes hw hfirst]

end Uploaded
end Bytes
end RenderPlan
