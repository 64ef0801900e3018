import FenceCheck.Path
import Mathlib.Data.List.Lex
import Mathlib.Data.List.Sort

namespace FenceCheck

/-!
# The order of paths

Paths are compared by the keys of their components, and different components have different keys.
Hence paths in strict order are determined, up to their spelling, by the set of what they mean, and
a sorted set of paths is the only list in strict order that means what its members mean.
-/

theorem Component.key_injective : Function.Injective Component.key := by
  intro a b h
  cases a <;> cases b <;> simp [Component.key] at h ⊢
  exact List.map_injective_iff.mpr (fun _ _ => Char.toNat_inj.mp) h

namespace Path

variable {p q : Path}

theorem key_eq_iff : p.key = q.key ↔ p.components = q.components :=
  (List.map_injective_iff.mpr Component.key_injective).eq_iff

theorem le_iff : p.le q = true ↔ p.key ≤ q.key := by
  simp [le]

/-- Paths in strict order. -/
def Ascending (ps : List Path) : Prop :=
  ps.Pairwise fun p q => p.key < q.key

theorem Ascending.nodup_components {ps : List Path} (h : Ascending ps) :
    (ps.map components).Nodup :=
  List.pairwise_map.mpr (h.imp fun hlt heq => hlt.ne (key_eq_iff.mpr heq))

/-- What paths in strict order mean is determined by its members. -/
theorem Ascending.map_components_eq {ps qs : List Path} (hps : Ascending ps)
    (hqs : Ascending qs) (h : ∀ c, c ∈ ps.map components ↔ c ∈ qs.map components) :
    ps.map components = qs.map components := by
  have hinj : Function.Injective (List.map (List.map Component.key)) :=
    List.map_injective_iff.mpr (List.map_injective_iff.mpr Component.key_injective)
  have hkeys : ∀ rs : List Path, Ascending rs →
      ((rs.map components).map (List.map Component.key)).Pairwise (· < ·) := by
    intro rs hrs
    rw [List.map_map]
    exact List.pairwise_map.mpr hrs
  apply hinj
  refine (hkeys ps hps).eq_of_mem_iff (hkeys qs hqs) fun k => ?_
  simp only [List.mem_map (l := ps.map components), List.mem_map (l := qs.map components), h]

theorem dropRepeats_sublist (ps : List Path) : (dropRepeats ps).Sublist ps := by
  induction ps with
  | nil => exact List.Sublist.refl _
  | cons p ps ih =>
      rw [dropRepeats]
      cases hkept : dropRepeats ps with
      | nil => exact (List.nil_sublist ps).cons_cons p
      | cons q qs =>
          rw [hkept] at ih
          dsimp only
          split
          · exact ((List.sublist_cons_self q qs).trans ih).cons_cons p
          · exact ih.cons_cons p

theorem exists_mem_dropRepeats {ps : List Path} (h : p ∈ ps) :
    ∃ q ∈ dropRepeats ps, q.components = p.components := by
  induction ps with
  | nil => cases h
  | cons r ps ih =>
      -- the first of a run stands for it, the others are met behind it
      have hcases : p = r ∨ ∃ q ∈ dropRepeats ps, q.components = p.components :=
        (List.mem_cons.mp h).imp_right ih
      rw [dropRepeats]
      cases hkept : dropRepeats ps with
      | nil =>
          rw [hkept] at hcases
          obtain rfl | ⟨q, hq, -⟩ := hcases
          · exact ⟨p, List.mem_cons_self, rfl⟩
          · cases hq
      | cons q qs =>
          rw [hkept] at hcases
          dsimp only
          split
          · next hsame =>
              have hmeans : r.components = q.components := key_eq_iff.mp (beq_iff_eq.mp hsame)
              obtain rfl | ⟨s, hs, hmean⟩ := hcases
              · exact ⟨p, List.mem_cons_self, rfl⟩
              · obtain rfl | hs := List.mem_cons.mp hs
                · exact ⟨r, List.mem_cons_self, hmeans.trans hmean⟩
                · exact ⟨s, List.mem_cons_of_mem r hs, hmean⟩
          · obtain rfl | ⟨s, hs, hmean⟩ := hcases
            · exact ⟨p, List.mem_cons_self, rfl⟩
            · exact ⟨s, List.mem_cons_of_mem r hs, hmean⟩

theorem ascending_dropRepeats {ps : List Path} (h : ps.Pairwise fun p q => p.key ≤ q.key) :
    Ascending (dropRepeats ps) := by
  induction ps with
  | nil => exact List.Pairwise.nil
  | cons p ps ih =>
      obtain ⟨hp, hps⟩ := List.pairwise_cons.mp h
      specialize ih hps
      have hsub := dropRepeats_sublist ps
      rw [dropRepeats]
      cases hkept : dropRepeats ps with
      | nil => exact List.pairwise_singleton _ p
      | cons q qs =>
          rw [hkept] at ih hsub
          -- the head of what is kept is a member of the list, so nothing kept comes before `p`
          have hle : p.key ≤ q.key := hp q (hsub.subset List.mem_cons_self)
          obtain ⟨hq, hqs⟩ := List.pairwise_cons.mp ih
          have hlater : ∀ r ∈ qs, p.key < r.key := fun r hr => hle.trans_lt (hq r hr)
          dsimp only
          split
          · exact List.pairwise_cons.mpr ⟨hlater, hqs⟩
          · next hdiffer =>
              have hlt : p.key < q.key := hle.lt_of_ne fun heq => hdiffer (beq_iff_eq.mpr heq)
              refine List.pairwise_cons.mpr ⟨?_, ih⟩
              intro r hr
              obtain rfl | hr := List.mem_cons.mp hr
              · exact hlt
              · exact hlater r hr

theorem pairwise_mergeSort_le (ps : List Path) :
    (ps.mergeSort le).Pairwise fun p q => p.key ≤ q.key := by
  refine (List.pairwise_mergeSort ?_ ?_ ps).imp le_iff.mp
  · intro p q r hpq hqr
    exact le_iff.mpr ((le_iff.mp hpq).trans (le_iff.mp hqr))
  · intro p q
    rw [Bool.or_eq_true, le_iff, le_iff]
    exact le_total p.key q.key

theorem ascending_sortedSet (ps : List Path) : Ascending (sortedSet ps) :=
  ascending_dropRepeats (pairwise_mergeSort_le ps)

theorem mem_of_mem_sortedSet {ps : List Path} (h : p ∈ sortedSet ps) : p ∈ ps :=
  List.mem_mergeSort.mp ((dropRepeats_sublist _).subset h)

theorem exists_mem_sortedSet {ps : List Path} (h : p ∈ ps) :
    ∃ q ∈ sortedSet ps, q.components = p.components :=
  exists_mem_dropRepeats (List.mem_mergeSort.mpr h)

/-- A sorted set means what its members mean. -/
theorem mem_map_components_sortedSet {ps : List Path} {c : List Component} :
    c ∈ (sortedSet ps).map components ↔ c ∈ ps.map components := by
  rw [List.mem_map, List.mem_map]
  constructor
  · rintro ⟨p, hp, hc⟩
    exact ⟨p, mem_of_mem_sortedSet hp, hc⟩
  · rintro ⟨p, hp, rfl⟩
    exact exists_mem_sortedSet hp

end Path

end FenceCheck
