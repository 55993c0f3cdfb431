import Mathlib.Algebra.Group.Nat.Defs
import IngressPlane.Encoding.Sha256

/-! Numbers and bytes as they are written out around a digest. Of a number, a field of bytes keeps what it is
modulo the range of the field (`bigEndian_eq_iff`), and the hexadecimal digits of bytes show them all
(`hex_inj`). -/
namespace IngressPlane.Sha256

@[simp] theorem length_bigEndian (width n : Nat) : (bigEndian width n).length = width := by
  simp [bigEndian]

theorem bigEndian_succ (width n : Nat) :
    bigEndian (width + 1) n = UInt8.ofNat (n / 256 ^ width) :: bigEndian width n := by
  unfold bigEndian
  rw [List.range_succ_eq_map, List.map_cons, List.map_map]
  refine congrArg (_ :: ·) (List.map_congr_left fun i _ => ?_)
  have hplace : width + 1 - 1 - (i + 1) = width - 1 - i := by omega
  exact congrArg (fun place => UInt8.ofNat (n / 256 ^ place)) hplace

theorem bigEndian_eq_iff {width m n : Nat} :
    bigEndian width m = bigEndian width n ↔ m % 256 ^ width = n % 256 ^ width := by
  induction width with
  | zero => simp [bigEndian, Nat.mod_one]
  | succ width ih =>
    have hbyte : UInt8.ofNat (m / 256 ^ width) = UInt8.ofNat (n / 256 ^ width) ↔
        m / 256 ^ width % 256 = n / 256 ^ width % 256 := by
      rw [← UInt8.toNat_inj, UInt8.toNat_ofNat', UInt8.toNat_ofNat']
    have hpos : 0 < 256 ^ width := Nat.pow_pos (by decide)
    rw [bigEndian_succ, bigEndian_succ, List.cons.injEq, hbyte, ih, Nat.pow_succ, Nat.mod_mul, Nat.mod_mul]
    constructor
    · rintro ⟨hhigh, hlow⟩
      rw [hhigh, hlow]
    · intro h
      have hlow : m % 256 ^ width = n % 256 ^ width := by
        have := congrArg (· % 256 ^ width) h
        simpa using this
      rw [hlow] at h
      exact ⟨Nat.eq_of_mul_eq_mul_left hpos (Nat.add_left_cancel h), hlow⟩

theorem digitChar_inj {m n : Nat} (hm : m < 16) (hn : n < 16) (h : Nat.digitChar m = Nat.digitChar n) : m = n := by
  have hall : ∀ m < 16, ∀ n < 16, Nat.digitChar m = Nat.digitChar n → m = n := by decide
  exact hall m hm n hn h

theorem hex_inj {xs ys : List UInt8} : hex xs = hex ys ↔ xs = ys := by
  refine ⟨fun h => ?_, congrArg hex⟩
  have hdigits := String.ofList_inj.1 h
  induction xs generalizing ys with
  | nil =>
    cases ys with
    | nil => rfl
    | cons y ys => cases hdigits
  | cons x xs ih =>
    cases ys with
    | nil => cases hdigits
    | cons y ys =>
      simp only [List.flatMap_cons, List.cons_append, List.nil_append, List.cons.injEq] at hdigits
      obtain ⟨hhigh, hlow, hrest⟩ := hdigits
      have hx := x.toNat_lt
      have hy := y.toNat_lt
      have hdiv := digitChar_inj (by omega) (by omega) hhigh
      have hmod := digitChar_inj (by omega) (by omega) hlow
      have hbyte : x = y := UInt8.toNat_inj.1 (by omega)
      rw [hbyte, ih (String.ofList_inj.2 hrest) hrest]

def Collide (x y : List UInt8) : Prop := x ≠ y ∧ digest x = digest y

theorem hex_digest_eq_iff {x y : List UInt8} : hex (digest x) = hex (digest y) ↔ x = y ∨ Collide x y := by
  rw [hex_inj]
  by_cases h : x = y <;> simp [Collide, h]

end IngressPlane.Sha256
