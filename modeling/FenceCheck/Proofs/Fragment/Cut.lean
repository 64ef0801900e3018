import FenceCheck.Fragment
import FenceCheck.Proofs.Text.FirstOccurrence

namespace FenceCheck

/-!
# A text cut into regions

Cutting loses nothing: the gaps and regions in their order, and what is left, are the
text again. A region ends at the first fence behind its opening one. Each fragment is a
region together with the number, the offset and the line that it has in the text.
-/

namespace Region

/-- A region with the gap before it. -/
def written (r : Region) : List Char :=
  r.gap ++ r.raw

/-- Whether no fence stands in the body, or begins in it, before the closing one. -/
def Closed (r : Region) : Prop :=
  Text.split? fence (r.body ++ fence) = some (r.body, [])

@[simp] theorem body_after (before body : List Char) : (after before body).body = body := by
  unfold after
  split <;> rfl

theorem split?_fence_append {u : List Char} (hu : ¬ fence <:+: u) (h : u.getLast? ≠ some '`')
    (b : List Char) :
    Text.split? fence (u ++ b) =
      (Text.split? fence b).map fun halves => (u ++ halves.1, halves.2) := by
  rcases List.eq_nil_or_concat u with rfl | ⟨init, last, rfl⟩
  · simp
  · have hlast : last ∉ fence := fun hmem => h (by simpa [fence] using hmem)
    have hinit : Text.split? fence init = none :=
      Text.split?_eq_none_iff.2 fun hpart =>
        hu (hpart.trans (by simpa using (List.prefix_append init [last]).isInfix))
    have hboth := Text.split?_append_cons_of_eq_none fence_ne_nil hlast b hinit
    simpa using hboth

theorem split?_fence_append_of_notMem {u : List Char} (hu : '`' ∉ u) (b : List Char) :
    Text.split? fence (u ++ b) =
      (Text.split? fence b).map fun halves => (u ++ halves.1, halves.2) := by
  apply split?_fence_append
  · intro hpart
    exact hu (hpart.subset (by simp [fence]))
  · intro hlast
    exact hu (List.mem_of_getLast? hlast)

theorem cut_of_no_opening {s : List Char} (h : Text.split? fence s = none) :
    cut s = ([], s) := by
  rw [cut]
  split
  · rfl
  · simp_all

theorem cut_of_no_closing {s before inside : List Char}
    (ho : Text.split? fence s = some (before, inside)) (hc : Text.split? fence inside = none) :
    cut s = ([], s) := by
  rw [cut]
  split
  · rfl
  · split
    · rfl
    · simp_all

theorem cut_of_closing {s before inside body rest : List Char}
    (ho : Text.split? fence s = some (before, inside))
    (hc : Text.split? fence inside = some (body, rest)) :
    cut s = (after before body :: (cut rest).1, (cut rest).2) := by
  rw [cut]
  split
  · simp_all
  · split
    · simp_all
    · simp_all

theorem length_lt_of_closing {s before inside body rest : List Char}
    (ho : Text.split? fence s = some (before, inside))
    (hc : Text.split? fence inside = some (body, rest)) : rest.length < s.length :=
  Nat.lt_trans (Text.length_lt_of_split? fence_ne_nil hc)
    (Text.length_lt_of_split? fence_ne_nil ho)

/-- What one round of cutting finds: an opening fence with a partner, or nothing. -/
theorem cut_cases (s : List Char) :
    cut s = ([], s) ∨ ∃ before body rest,
      s = before ++ fence ++ body ++ fence ++ rest ∧ (after before body).Closed ∧
        cut s = (after before body :: (cut rest).1, (cut rest).2) := by
  cases ho : Text.split? fence s with
  | none => exact .inl (cut_of_no_opening ho)
  | some opening =>
      obtain ⟨before, inside⟩ := opening
      cases hc : Text.split? fence inside with
      | none => exact .inl (cut_of_no_closing ho hc)
      | some closing =>
          obtain ⟨body, rest⟩ := closing
          have hinside := Text.eq_append_of_split? hc
          refine .inr ⟨before, body, rest, ?_, ?_, cut_of_closing ho hc⟩
          · rw [Text.eq_append_of_split? ho, hinside]
            simp
          · unfold Closed
            rw [body_after]
            refine Text.split?_inside (u := []) (v := rest) ?_ (by simp)
            simpa [← hinside] using hc

theorem length_lt_of_eq {s before body rest : List Char}
    (h : s = before ++ fence ++ body ++ fence ++ rest) : rest.length < s.length := by
  rw [h]
  simp [fence]
  omega

/-- The regions with their gaps, and what is left, make up the text. -/
theorem flatten_cut (s : List Char) :
    ((cut s).1.map written).flatten ++ (cut s).2 = s := by
  rcases cut_cases s with h | ⟨before, body, rest, hs, -, h⟩
  · simp [h]
  · have hlt := length_lt_of_eq hs
    have ih := flatten_cut rest
    have hgap := gap_append_raw_after before body
    rw [h]
    simp only [List.map_cons, List.flatten_cons, List.append_assoc, ih]
    simp only [written, hgap, hs, List.append_assoc]
termination_by s.length

theorem closed_of_mem_cut {s : List Char} {r : Region} (h : r ∈ (cut s).1) : r.Closed := by
  rcases cut_cases s with hs | ⟨before, body, rest, hs, hclosed, hcut⟩
  · simp [hs] at h
  · have hlt := length_lt_of_eq hs
    rw [hcut] at h
    rcases List.mem_cons.1 h with rfl | h
    · exact hclosed
    · exact closed_of_mem_cut h
termination_by s.length

end Region

theorem Disposition.ofRegion_eq_compile_iff {language : List Char} {r : Region} :
    ofRegion language r = .compile ↔ r.escaped = false ∧ r.tag? = some language := by
  unfold ofRegion
  cases r.escaped with
  | true => simp
  | false =>
      by_cases htag : r.tag? = some language
      · simp [htag]
      · simp [htag]

namespace Fragment

theorem isCompilable_ofRegion_iff {t : Target} {identity : String} {c : Cursor} {r : Region} :
    (ofRegion t identity c r).isCompilable = true ↔
      r.escaped = false ∧ r.tag? = some t.language.toList := by
  rw [← Disposition.ofRegion_eq_compile_iff]
  simp [isCompilable, ofRegion]

/-- The cursor behind a text. -/
def Cursor.behind (c : Cursor) (regions : Nat) (s : List Char) : Cursor :=
  { c.skip s with id := c.id + regions }

theorem getElem?_ofRegions (t : Target) (identity : String) (c : Cursor) (rs : List Region)
    (n : Nat) :
    (ofRegions t identity c rs)[n]? = rs[n]?.map fun r =>
      ofRegion t identity
        (c.behind n (((rs.take n).map Region.written).flatten ++ r.gap)) r := by
  induction rs generalizing c n with
  | nil => simp [ofRegions]
  | cons r rs ih =>
      cases n with
      | zero => simp [ofRegions, Cursor.behind, Cursor.skip]
      | succ n =>
          simp only [ofRegions, List.getElem?_cons_succ, ih]
          congr 1
          funext q
          congr 1
          simp [Cursor.behind, Cursor.skip, Region.written]
          omega

theorem map_id_ofRegions (t : Target) (identity : String) (c : Cursor) (rs : List Region) :
    (ofRegions t identity c rs).map Fragment.id = List.range' c.id rs.length := by
  induction rs generalizing c with
  | nil => rfl
  | cons r rs ih => simp [ofRegions, ih, ofRegion, Cursor.skip, List.range'_succ]

theorem length_extract (t : Target) (text identity : String) :
    (extract t text identity).length = (Region.cut text.toList).1.length := by
  have h := congrArg List.length (map_id_ofRegions t identity .start (Region.cut text.toList).1)
  rwa [List.length_map, List.length_range'] at h

theorem pairwise_id_extract (t : Target) (text identity : String) :
    ((extract t text identity).map Fragment.id).Pairwise (· < ·) := by
  rw [extract, map_id_ofRegions]
  exact List.pairwise_lt_range'

/-- A fragment is that of a region which stands in a text between two others. -/
structure StandsIn (t : Target) (text : List Char) (identity : String) (f : Fragment)
    (r : Region) (before after : List Char) : Prop where
  nth : (Region.cut text).1[f.id - 1]? = some r
  text_eq : text = before ++ r.raw ++ after
  closed : r.Closed
  eq_ofRegion : f = ofRegion t identity
    ⟨f.id, Text.byteLength before, before.count '\n' + 1⟩ r

theorem standsIn_of_getElem? (t : Target) {text : String} (identity : String) {n : Nat}
    {r : Region} (hr : (Region.cut text.toList).1[n]? = some r) :
    ∃ f after, (extract t text identity)[n]? = some f ∧ f.id = n + 1 ∧
      StandsIn t text.toList identity f r
        ((((Region.cut text.toList).1.take n).map Region.written).flatten ++ r.gap) after := by
  have hsplit : (Region.cut text.toList).1 =
      (Region.cut text.toList).1.take n ++ r :: (Region.cut text.toList).1.drop (n + 1) := by
    obtain ⟨hlt, hget⟩ := List.getElem?_eq_some_iff.1 hr
    rw [← hget, List.getElem_cons_drop, List.take_append_drop]
  have htext := Region.flatten_cut text.toList
  rw [hsplit] at htext
  simp only [List.map_append, List.map_cons, List.flatten_append, List.flatten_cons,
    Region.written, List.append_assoc] at htext
  have hn : (extract t text identity)[n]? = some (ofRegion t identity (Cursor.start.behind n
      ((((Region.cut text.toList).1.take n).map Region.written).flatten ++ r.gap)) r) := by
    rw [extract, getElem?_ofRegions, hr]
    rfl
  refine ⟨_, (((Region.cut text.toList).1.drop (n + 1)).map Region.written).flatten ++
    (Region.cut text.toList).2, hn, ?_, ?_, ?_, ?_, ?_⟩
  · simp [ofRegion, Cursor.behind, Cursor.start, Nat.add_comm 1 n]
  · simpa [ofRegion, Cursor.behind, Cursor.start, Nat.add_comm 1 n] using hr
  · simp only [List.append_assoc]
    exact htext.symm
  · exact Region.closed_of_mem_cut (List.mem_of_getElem? hr)
  · simp [Cursor.behind, Cursor.skip, Cursor.start, ofRegion, Nat.add_comm 1]

theorem exists_standsIn {t : Target} {text identity : String} {f : Fragment}
    (h : f ∈ extract t text identity) :
    ∃ r before after, StandsIn t text.toList identity f r before after := by
  obtain ⟨n, hn⟩ := List.mem_iff_getElem?.1 h
  have hregion := hn
  rw [extract, getElem?_ofRegions, Option.map_eq_some_iff] at hregion
  obtain ⟨r, hr, -⟩ := hregion
  obtain ⟨f', after, hf', -, hstands⟩ := standsIn_of_getElem? t identity hr
  obtain rfl : f = f' := Option.some.inj (hn.symm.trans hf')
  exact ⟨r, _, after, hstands⟩

end Fragment

end FenceCheck
