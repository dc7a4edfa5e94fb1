import Emend.SystemText
import Mathlib.Data.List.Lex
import Mathlib.Data.List.TakeWhile
import Mathlib.Order.Lattice

/-!
# Texts of the system and their bytes

A name is told apart from another one by its bytes, whether or not they are those of a text, and
so are the places of names in an order.

* `octets_injective`: what has the same bytes is the same.
* `ending?_eq_some_iff`: what stands behind the last dot.
-/

namespace Emend.SystemText

/-! ## Bytes -/

/-- **What has the same bytes is the same.** A text is never one of those that are none. -/
theorem octets_injective : Function.Injective octets := by
  intro a b h
  have hbytes : ∀ x y : ByteArray, x.data.toList = y.data.toList → x = y := fun x y hxy =>
    ByteArray.ext (Array.toList_inj.mp hxy)
  cases a with
  | text s =>
      cases b with
      | text s' => rw [String.toByteArray_inj.mp (hbytes _ _ h)]
      | raw bytes hb => exact absurd (hbytes _ _ h ▸ s.isValidUTF8) hb
  | raw bytes ha =>
      cases b with
      | text s' => exact absurd ((hbytes _ _ h).symm ▸ s'.isValidUTF8) ha
      | raw bytes' hb =>
          obtain rfl := hbytes _ _ h
          rfl

/-! ## Order -/

theorem key_injective : Function.Injective key := by
  intro a b h
  refine octets_injective (List.map_injective_iff.mpr ?_ h)
  exact fun x y hxy => UInt8.toNat_inj.mp hxy

/-- Names come in the order of their bytes. -/
instance : LinearOrder SystemText := LinearOrder.lift' key key_injective

/-! ## Endings -/

/-- **What stands behind the last dot** has no dot, and in front of that dot there is something. -/
theorem ending?_eq_some_iff {s : SystemText} {ending : List UInt8} :
    s.ending? = some ending ↔
      '.'.toUInt8 ∉ ending ∧ ∃ stem, stem ≠ [] ∧ s.octets = stem ++ '.'.toUInt8 :: ending := by
  unfold ending?
  generalize '.'.toUInt8 = dot
  constructor
  · intro h
    dsimp only at h
    -- from the back, the bytes are the ending, the first dot from there, and what is left
    have hsplit := List.takeWhile_append_dropWhile (p := (· ≠ dot)) (l := s.octets.reverse)
    have hhead := List.head?_dropWhile_not (· ≠ dot) s.octets.reverse
    have hdot : dot ∉ s.octets.reverse.takeWhile (· ≠ dot) := fun hmem => by
      simpa using List.mem_takeWhile_imp hmem
    generalize s.octets.reverse.takeWhile (· ≠ dot) = tail at h hsplit hdot
    generalize s.octets.reverse.dropWhile (· ≠ dot) = rest at hsplit hhead
    rw [← hsplit, List.drop_left' rfl] at h
    split at h
    · rename_i c last more
      cases h
      have hc : c = dot := by simpa using hhead
      refine ⟨by simpa using hdot, (last :: more).reverse, by simp, ?_⟩
      rw [← List.reverse_reverse s.octets, ← hsplit, hc]
      simp
    · cases h
  · rintro ⟨hdot, stem, hstem, hs⟩
    have hback : s.octets.reverse = ending.reverse ++ dot :: stem.reverse := by simp [hs]
    have htake : s.octets.reverse.takeWhile (· ≠ dot) = ending.reverse := by
      rw [hback, List.takeWhile_append_of_pos, List.takeWhile_cons_of_neg (by simp), List.append_nil]
      intro c hc
      have : c ≠ dot := fun he => hdot (he ▸ List.mem_reverse.mp hc)
      simpa using this
    obtain ⟨last, more, hlast⟩ := List.exists_cons_of_ne_nil (List.reverse_ne_nil_iff.mpr hstem)
    simp only [htake]
    rw [hback, List.drop_left' rfl, hlast]
    simp

end Emend.SystemText
