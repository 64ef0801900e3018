import FenceCheck.Proofs.Fragment.Tag
import Mathlib.Data.Nat.Find
import Mathlib.Order.Bounds.Basic

namespace FenceCheck

/-!
# The scan for fences

The fragments of a text are what a scan by places finds: from a place on it looks for the first
three backticks, for the first three that do not overlap these, and goes on behind them. The
scan is a relation, and it relates each text to just one list of stretches.
-/

/-- A part of a text, from a place up to another. -/
structure Stretch where
  start : Nat
  stop : Nat
  deriving DecidableEq, Repr

namespace Stretch

def text (x : Stretch) (s : List Char) : List Char :=
  (s.take x.stop).drop x.start

end Stretch

namespace Fence

/-- Whether three backticks start at a place. -/
def At (s : List Char) (n : Nat) : Prop :=
  fence <+: s.drop n

/-- Whether a place is the first one, from `p` on, where three backticks start. -/
def First (s : List Char) (p n : Nat) : Prop :=
  IsLeast {m | p ≤ m ∧ At s m} n

/-- Where a region starts that is opened at `q` in a scan from `p` on. -/
def opening (s : List Char) (p q : Nat) : Nat :=
  if p < q ∧ s[q - 1]? = some '\\' then q - 1 else q

/-- The stretches that a scan from a place on comes to. -/
inductive Scanned (s : List Char) : Nat → List Stretch → Prop
  | stop {p : Nat} (h : ∀ q, First s p q → ∀ c, q + 3 ≤ c → ¬ At s c) : Scanned s p []
  | region {p q c : Nat} {xs : List Stretch} (ho : First s p q) (hc : First s (q + 3) c)
      (more : Scanned s (c + 3) xs) : Scanned s p (⟨opening s p q, c + 3⟩ :: xs)

/-- The text of each stretch, and of the gap in front of it. -/
def tiles (s : List Char) : Nat → List Stretch → List (List Char × List Char)
  | _, [] => []
  | p, x :: xs => ((s.take x.start).drop p, x.text s) :: tiles s x.stop xs

variable {s : List Char} {p q c : Nat}

theorem At.le_length (h : At s c) : c + 3 ≤ s.length := by
  have hle := h.length_le
  have hlength : fence.length = 3 := rfl
  rw [List.length_drop] at hle
  omega

theorem at_append {u v : List Char} {n : Nat} :
    At (u ++ v) (u.length + n) ↔ fence <+: v.drop n := by
  rw [At, List.drop_length_add_append]

theorem opening_le : opening s p q ≤ q := by
  unfold opening
  split <;> omega

theorem le_opening (h : p ≤ q) : p ≤ opening s p q := by
  unfold opening
  split <;> omega

theorem exists_first {n : Nat} (hp : p ≤ n) (hn : At s n) : ∃ q, First s p q ∧ q ≤ n := by
  classical
  have hex : ∃ m, p ≤ m ∧ At s m := ⟨n, hp, hn⟩
  exact ⟨Nat.find hex, ⟨Nat.find_spec hex, fun m hm => Nat.find_min' hex hm⟩,
    Nat.find_min' hex ⟨hp, hn⟩⟩

theorem Scanned.unique {xs ys : List Stretch} (h : Scanned s p xs) (h' : Scanned s p ys) :
    xs = ys := by
  induction h generalizing ys with
  | stop hstop =>
      cases h' with
      | stop => rfl
      | region ho hc => exact (hstop _ ho _ hc.1.1 hc.1.2).elim
  | region ho hc _ ih =>
      cases h' with
      | stop hstop => exact (hstop _ ho _ hc.1.1 hc.1.2).elim
      | region ho' hc' more' =>
          obtain rfl := ho.unique ho'
          obtain rfl := hc.unique hc'
          rw [ih more']

section Tiles

theorem Scanned.le_start {xs : List Stretch} (h : Scanned s p xs) {x : Stretch} (hx : x ∈ xs) :
    p ≤ x.start := by
  induction h with
  | stop => cases hx
  | region ho hc _ ih =>
      have hle := le_opening (s := s) ho.1.1
      rcases List.mem_cons.1 hx with rfl | hx
      · exact hle
      · have hopening := hc.1.1
        have hmore := ih hx
        have hp := ho.1.1
        omega

theorem Scanned.pairwise {xs : List Stretch} (h : Scanned s p xs) :
    xs.Pairwise fun x y => x.stop ≤ y.start := by
  induction h with
  | stop => exact List.Pairwise.nil
  | region _ _ more ih => exact List.Pairwise.cons (fun x hx => more.le_start hx) ih

theorem drop_take_append_drop {a b : Nat} (hab : a ≤ b) (hb : b ≤ s.length) :
    (s.take b).drop a ++ s.drop b = s.drop a := by
  have hlength : a ≤ (s.take b).length := by
    rw [List.length_take]
    omega
  rw [← List.drop_append_of_le_length hlength, List.take_append_drop]

theorem Scanned.not_infix_gap {xs : List Stretch} (h : Scanned s p xs)
    {tile : List Char × List Char} (htile : tile ∈ tiles s p xs) : ¬ fence <:+: tile.1 := by
  induction h with
  | stop => cases htile
  | @region p q c xs ho hc _ ih =>
      rcases List.mem_cons.1 htile with rfl | htile
      · rintro ⟨u, v, heq⟩
        dsimp only at heq
        have hlength := congrArg List.length heq
        simp only [List.length_append, List.length_drop, List.length_take] at hlength
        have hfence : fence.length = 3 := rfl
        have hopening := opening_le (s := s) (p := p) (q := q)
        -- The fence in the gap would come before the first one.
        have hat : At s (p + u.length) := by
          have hgap : s.drop p = u ++ fence ++ v ++ s.drop (opening s p q) := by
            have hle := ho.1.2.le_length
            rw [heq, drop_take_append_drop (le_opening ho.1.1) (by omega)]
          rw [At, ← List.drop_drop, hgap]
          simp
        have hfirst := ho.2 ⟨Nat.le_add_right p u.length, hat⟩
        omega
      · exact ih htile

/-- Gaps and stretches make up the text, but for a rest that holds no pair of fences. -/
theorem Scanned.exists_rest {xs : List Stretch} (h : Scanned s p xs) :
    ∃ rest, (tiles s p xs).flatMap (fun tile => tile.1 ++ tile.2) ++ rest = s.drop p ∧
      ∀ u v w, rest ≠ u ++ fence ++ v ++ fence ++ w := by
  induction h with
  | @stop p hstop =>
      refine ⟨s.drop p, rfl, fun u v w heq => ?_⟩
      have hopen : At s (p + u.length) := by
        rw [At, ← List.drop_drop, heq]
        simp
      have hclose : At s (p + (u.length + 3 + v.length)) := by
        have hlength : (u ++ fence ++ v).length = u.length + 3 + v.length := by
          simp only [List.length_append, fence, List.length_cons, List.length_nil]
        rw [At, ← List.drop_drop, heq, ← hlength, List.append_assoc _ fence w, List.drop_left]
        exact List.prefix_append fence w
      obtain ⟨q, hq, hle⟩ := exists_first (Nat.le_add_right p u.length) hopen
      exact hstop q hq _ (by omega) hclose
  | @region p q c xs ho hc _ ih =>
      obtain ⟨rest, hrest, hnone⟩ := ih
      refine ⟨rest, ?_, hnone⟩
      have hend := hc.1.2.le_length
      have hopening := opening_le (s := s) (p := p) (q := q)
      have hclosing := hc.1.1
      have hregion : (Stretch.mk (opening s p q) (c + 3)).text s ++ s.drop (c + 3) =
          s.drop (opening s p q) := drop_take_append_drop (by dsimp only; omega) hend
      rw [tiles, List.flatMap_cons, List.append_assoc, hrest, List.append_assoc, hregion]
      exact drop_take_append_drop (le_opening ho.1.1) (by dsimp only; omega)

end Tiles

section Search

variable {u v before rest : List Char}

theorem first_of_split? (h : Text.split? fence v = some (before, rest)) :
    First (u ++ v) u.length (u.length + before.length) := by
  obtain ⟨heq, hfirst⟩ := Text.split?_eq_some_iff.1 h
  refine ⟨⟨Nat.le_add_right _ _, ?_⟩, ?_⟩
  · rw [at_append, heq, List.append_assoc, List.drop_left]
    exact List.prefix_append fence rest
  · rintro m ⟨hm, hat⟩
    obtain ⟨k, rfl⟩ := Nat.exists_eq_add_of_le hm
    rw [at_append] at hat
    by_contra hlt
    exact hfirst k (by omega) hat

theorem not_at_of_split?_eq_none (h : Text.split? fence v = none) {n : Nat} (hn : u.length ≤ n) :
    ¬ At (u ++ v) n := by
  obtain ⟨k, rfl⟩ := Nat.exists_eq_add_of_le hn
  rw [at_append]
  intro hpre
  exact Text.split?_eq_none_iff.1 h (hpre.isInfix.trans (List.drop_suffix k v).isInfix)

theorem opening_append (u before body tail : List Char) :
    opening (u ++ before ++ tail) u.length (u.length + before.length) =
      u.length + (Region.after before body).gap.length := by
  unfold opening Region.after
  rcases List.eq_nil_or_concat before with rfl | ⟨init, last, rfl⟩
  · simp
  · rw [List.concat_eq_append]
    have hlast : (u ++ (init ++ [last]) ++ tail)[u.length + (init ++ [last]).length - 1]? =
        some last := by
      have hplace : u.length + (init ++ [last]).length - 1 = (u ++ init).length := by
        simp only [List.length_append, List.length_singleton]
        omega
      have htext : u ++ (init ++ [last]) ++ tail = (u ++ init) ++ last :: tail := by simp
      rw [hplace, htext, List.getElem?_append_right (Nat.le_refl _), Nat.sub_self]
      rfl
    rw [hlast, List.getLast?_concat]
    by_cases hbackslash : last = '\\'
    · simp [hbackslash]
    · simp [hbackslash]

end Search

end Fence

namespace Region

/-- The stretches of regions that stand one behind the other from a place on. -/
def stretches : Nat → List Region → List Stretch
  | _, [] => []
  | p, r :: rs =>
      ⟨p + r.gap.length, p + r.written.length⟩ :: stretches (p + r.written.length) rs

theorem length_stretches (p : Nat) (rs : List Region) : (stretches p rs).length = rs.length := by
  induction rs generalizing p with
  | nil => rfl
  | cons r rs ih => rw [stretches, List.length_cons, ih, List.length_cons]

theorem getElem?_stretches (p : Nat) (rs : List Region) (n : Nat) :
    (stretches p rs)[n]? = rs[n]?.map fun r =>
      ⟨p + (((rs.take n).map written).flatten ++ r.gap).length,
        p + (((rs.take n).map written).flatten ++ r.written).length⟩ := by
  induction rs generalizing p n with
  | nil => rfl
  | cons r rs ih =>
      cases n with
      | zero => simp [stretches]
      | succ n =>
          rw [stretches, List.getElem?_cons_succ, List.getElem?_cons_succ, ih]
          simp only [List.take_succ_cons, List.map_cons, List.flatten_cons, List.length_append,
            Nat.add_assoc]

/-- Cutting a text is scanning it. -/
theorem scanned_cut (u v : List Char) :
    Fence.Scanned (u ++ v) u.length (stretches u.length (cut v).1) := by
  cases ho : Text.split? fence v with
  | none =>
      rw [cut_of_no_opening ho]
      refine .stop fun q hq => ?_
      exact (Fence.not_at_of_split?_eq_none ho hq.1.1 hq.1.2).elim
  | some halves =>
      obtain ⟨before, inside⟩ := halves
      have hopening : Fence.First (u ++ v) u.length (u.length + before.length) :=
        Fence.first_of_split? ho
      have hv := Text.eq_append_of_split? ho
      have htext : u ++ v = (u ++ before ++ fence) ++ inside := by simp [hv]
      have hlength : (u ++ before ++ fence).length = u.length + before.length + 3 := by
        simp only [List.length_append, fence, List.length_cons, List.length_nil]
      cases hc : Text.split? fence inside with
      | none =>
          rw [cut_of_no_closing ho hc]
          refine .stop fun q hq c hqc => ?_
          obtain rfl := hq.unique hopening
          rw [htext]
          exact Fence.not_at_of_split?_eq_none hc (hlength ▸ hqc)
      | some halves =>
          obtain ⟨body, rest⟩ := halves
          have hinside := Text.eq_append_of_split? hc
          have hwritten := congrArg List.length (gap_append_raw_after before body)
          have hfence : fence.length = 3 := rfl
          simp only [List.length_append, hfence] at hwritten
          have hclosing := Fence.first_of_split? (u := u ++ before ++ fence) hc
          have hstart := Fence.opening_append u before body (fence ++ inside)
          have hshorter := length_lt_of_closing ho hc
          have hmore := scanned_cut (u ++ before ++ fence ++ body ++ fence) rest
          have hrest : u ++ before ++ fence ++ body ++ fence ++ rest = u ++ v := by
            rw [htext, hinside]
            simp
          have hend : (u ++ before ++ fence ++ body ++ fence).length =
              u.length + before.length + 3 + body.length + 3 := by
            simp only [List.length_append, hfence]
          have hstop : u.length + (after before body).written.length =
              u.length + before.length + 3 + body.length + 3 := by
            rw [written, List.length_append]
            omega
          rw [← htext, hlength] at hclosing
          rw [List.append_assoc u, ← List.append_assoc before, ← hv] at hstart
          rw [hrest, hend] at hmore
          rw [cut_of_closing ho hc, stretches, ← hstart, hstop]
          exact .region hopening hclosing hmore
termination_by v.length

end Region

namespace Fragment

/-- How the fragment of the `n`-th stretch is made of the text. -/
structure Shows (t : Target) (s : List Char) (n : Nat) (x : Stretch) (f : Fragment) : Prop where
  id : f.id = n + 1
  offset : f.offset = Text.byteLength (s.take x.start)
  startLine : f.startLine = 1 + (s.take x.start).count '\n'
  language : f.language = match Region.openingTag (x.text s) with
    | [] => none
    | tag => some (String.ofList tag)
  /-- A search for a fence with a word behind it finds the language, too. -/
  searched : Region.taggedFence? (x.text s) = f.language.map String.toList
  disposition : f.disposition =
    if (x.text s).head? = some '\\' then .escaped
    else if f.language = some t.language then .compile
    else .otherLanguage
  text : f.disposition ≠ .compile → f.text.toList = x.text s

variable {t : Target} {identity : String} {text : List Char} {f : Fragment} {r : Region}
  {before after : List Char}

theorem StandsIn.language_eq (h : StandsIn t text identity f r before after) :
    f.language = r.tag?.map String.ofList := by
  have heq := congrArg Fragment.language h.eq_ofRegion
  exact heq

theorem StandsIn.disposition_eq (h : StandsIn t text identity f r before after) :
    f.disposition = Disposition.ofRegion t.language.toList r := by
  have heq := congrArg Fragment.disposition h.eq_ofRegion
  exact heq

theorem StandsIn.shows (h : StandsIn t text identity f r before after) {n : Nat}
    (hid : f.id = n + 1) :
    Shows t text n ⟨before.length, (before ++ r.raw).length⟩ f := by
  have htake : text.take before.length = before := by
    rw [h.text_eq, List.append_assoc, List.take_left]
  have htext : Stretch.text ⟨before.length, (before ++ r.raw).length⟩ text = r.raw := by
    rw [Stretch.text, h.text_eq, List.take_left, List.drop_left]
  refine ⟨hid, ?_, ?_, ?_, ?_, ?_, ?_⟩
  · rw [htake, h.eq_ofRegion]
    rfl
  · rw [htake, h.eq_ofRegion, Nat.add_comm]
    rfl
  · rw [htext, Region.openingTag_raw, h.language_eq, Region.tag?_eq]
    cases r.inner.takeWhile Text.isWord <;> rfl
  · rw [htext, h.closed.taggedFence?_raw, h.language_eq, Option.map_map]
    cases r.tag? <;> simp
  · have hhead : r.raw.head? = some '\\' ↔ r.escaped = true := by
      cases hesc : r.escaped <;> simp [Region.raw, hesc, fence]
    have hlanguage : f.language = some t.language ↔ r.tag? = some t.language.toList := by
      rw [h.language_eq, Option.map_eq_some_iff]
      constructor
      · rintro ⟨tag, htag, hname⟩
        rw [htag, ← hname, String.toList_ofList]
      · intro htag
        exact ⟨_, htag, String.ofList_toList⟩
    simp only [htext, hhead, hlanguage]
    exact h.disposition_eq
  · intro hdisposition
    rw [htext, h.eq_ofRegion]
    rw [h.disposition_eq] at hdisposition
    simp only [ofRegion]
    cases hd : Disposition.ofRegion t.language.toList r with
    | compile => exact (hdisposition hd).elim
    | escaped => exact String.toList_ofList
    | otherLanguage => exact String.toList_ofList

/-- The fragments of a text are those of the scan, which is determined by the text. Its
stretches and the gaps in front of them make up the text, but for a rest. -/
theorem extract_eq_scan (t : Target) (text identity : String) :
    ∃ xs, (∀ ys, Fence.Scanned text.toList 0 ys ↔ ys = xs) ∧
      (extract t text identity).length = xs.length ∧
      (∀ n x, xs[n]? = some x →
        ∃ f, (extract t text identity)[n]? = some f ∧ Shows t text.toList n x f) ∧
      xs.Pairwise (fun x y => x.stop ≤ y.start) ∧
      (∀ tile ∈ Fence.tiles text.toList 0 xs, ¬ fence <:+: tile.1) ∧
      ∃ rest, (Fence.tiles text.toList 0 xs).flatMap (fun tile => tile.1 ++ tile.2) ++ rest =
          text.toList ∧
        ∀ u v w, rest ≠ u ++ fence ++ v ++ fence ++ w := by
  have hscan : Fence.Scanned text.toList 0 (Region.stretches 0 (Region.cut text.toList).1) :=
    Region.scanned_cut [] text.toList
  refine ⟨Region.stretches 0 (Region.cut text.toList).1, fun ys => ⟨fun h => h.unique hscan, ?_⟩,
    ?_, ?_, hscan.pairwise, fun tile => hscan.not_infix_gap, hscan.exists_rest⟩
  · rintro rfl
    exact hscan
  · rw [length_extract, Region.length_stretches]
  · intro n x hx
    rw [Region.getElem?_stretches, Option.map_eq_some_iff] at hx
    obtain ⟨r, hr, rfl⟩ := hx
    obtain ⟨f, after, hf, hid, hstands⟩ := standsIn_of_getElem? t identity hr
    refine ⟨f, hf, ?_⟩
    have hshows := hstands.shows hid
    rw [List.append_assoc, ← Region.written] at hshows
    simpa only [Nat.zero_add] using hshows

/-- Six of seven backticks are a region, and the word behind the seventh is no tag. -/
example : (extract ⟨"cpp", .lineDirective⟩ "```````cpp\n```" "a.md").map Fragment.text =
    ["``````"] := by
  decide +kernel

end Fragment

end FenceCheck
