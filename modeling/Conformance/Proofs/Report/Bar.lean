import Conformance.Proofs.Failure
import Conformance.Proofs.Report.Terminal
import Mathlib.Data.List.SplitBy
import Mathlib.Data.List.Nodup

/-!
# The bar of outcomes

A bar has a span of cells for each colour, green, red, yellow and magenta for the outcomes of cases and a dim one for
what is left.  However the shares of the outcomes are rounded, the spans are together as wide as was asked for: what
goes beyond the width is cut off, and what is missing stays dim.

Main results:

- `Terminal.splitBy_unroll`: grouping the cells of pieces gives the pieces that are not empty.
- `Terminal.cells_eq_unroll`: the cells of a bar are those of its pieces.
- `Terminal.resultBar_spans`: every bar is made of spans that fill its width, and there is one if it fits into memory.
-/

namespace Conformance.Terminal

open Decimal

/-! ## Pieces -/

/-- The cells of pieces, which have a length and a colour. -/
def unroll (pieces : List (Nat × Text)) : List Text :=
  pieces.flatMap fun piece => List.replicate piece.1 piece.2

/-- The cells in pieces. -/
def extent (pieces : List (Nat × Text)) : Nat :=
  (pieces.map (·.1)).sum

theorem length_unroll (pieces : List (Nat × Text)) : (unroll pieces).length = extent pieces := by
  unfold unroll extent
  rw [List.length_flatMap]
  simp

/-- Pieces whose cells are cut off at a width: every piece keeps its colour, and none grows. -/
def cut : Nat → List (Nat × Text) → List (Nat × Text)
  | _, [] => []
  | width, (n, color) :: rest => (min n width, color) :: cut (width - n) rest

theorem unroll_cut (width : Nat) (pieces : List (Nat × Text)) :
    unroll (cut width pieces) = (unroll pieces).take width := by
  induction pieces generalizing width with
  | nil => simp [unroll, cut]
  | cons piece rest ih =>
      obtain ⟨n, color⟩ := piece
      have hrest := ih (width - n)
      unfold unroll at hrest ⊢
      rw [cut, List.flatMap_cons, List.flatMap_cons, List.take_append, List.take_replicate, hrest, Nat.min_comm,
        List.length_replicate]

theorem colors_cut (width : Nat) (pieces : List (Nat × Text)) : (cut width pieces).map (·.2) = pieces.map (·.2) := by
  induction pieces generalizing width with
  | nil => rfl
  | cons piece rest ih => simp [cut, ih]

/-- A piece that is left of a cut was at least as long before. -/
theorem exists_of_mem_cut {width : Nat} {pieces : List (Nat × Text)} {piece : Nat × Text} (h : piece ∈ cut width pieces) :
    ∃ n, piece.1 ≤ n ∧ (n, piece.2) ∈ pieces := by
  induction pieces generalizing width with
  | nil => cases h
  | cons first rest ih =>
      obtain ⟨n, color⟩ := first
      rcases List.mem_cons.mp h with rfl | h
      · exact ⟨n, Nat.min_le_left _ _, List.mem_cons_self⟩
      · obtain ⟨n, hle, hmem⟩ := ih h
        exact ⟨n, hle, List.mem_cons_of_mem _ hmem⟩

/-! ## Groups -/

/-- Pieces that are empty have no cells. -/
theorem unroll_eq_flatten (pieces : List (Nat × Text)) :
    unroll pieces = ((pieces.filter (0 < ·.1)).map fun piece => List.replicate piece.1 piece.2).flatten := by
  unfold unroll
  induction pieces with
  | nil => rfl
  | cons piece rest ih =>
      by_cases hpositive : 0 < piece.1
      · rw [List.flatMap_cons, List.filter_cons_of_pos (by simpa using hpositive), List.map_cons, List.flatten_cons, ih]
      · have hzero : piece.1 = 0 := by omega
        rw [List.flatMap_cons, List.filter_cons_of_neg (by simpa using hpositive), hzero, ih]
        rfl

/-- Cells of pieces with different colours are grouped into the pieces that are not empty. -/
theorem splitBy_unroll {pieces : List (Nat × Text)} (h : (pieces.map (·.2)).Nodup) :
    (unroll pieces).splitBy (· == ·) =
      (pieces.filter (0 < ·.1)).map fun piece => List.replicate piece.1 piece.2 := by
  have hpositive : ∀ piece ∈ pieces.filter (0 < ·.1), 0 < piece.1 := by
    intro piece hpiece
    simpa using (List.mem_filter.mp hpiece).2
  have hcolors : ((pieces.filter (0 < ·.1)).map (·.2)).Nodup := h.sublist (List.filter_sublist.map _)
  rw [unroll_eq_flatten]
  refine List.splitBy_flatten ?_ ?_ ?_
  · intro hnil
    obtain ⟨piece, hpiece, hempty⟩ := List.mem_map.mp hnil
    have := hpositive piece hpiece
    rw [List.replicate_eq_nil_iff] at hempty
    omega
  · intro cells hcells
    obtain ⟨piece, -, rfl⟩ := List.mem_map.mp hcells
    refine List.Pairwise.isChain (List.pairwise_replicate.mpr (.inr ?_))
    exact beq_self_eq_true piece.2
  · rw [List.isChain_map]
    refine List.Pairwise.isChain ?_
    refine (List.pairwise_map.mp hcolors).imp_of_mem fun {piece other} hpiece hother hne => ?_
    have hfirst : List.replicate piece.1 piece.2 ≠ [] := by
      have := hpositive piece hpiece
      rw [ne_eq, List.replicate_eq_nil_iff]
      omega
    have hsecond : List.replicate other.1 other.2 ≠ [] := by
      have := hpositive other hother
      rw [ne_eq, List.replicate_eq_nil_iff]
      omega
    refine ⟨hfirst, hsecond, ?_⟩
    rw [List.getLast_replicate, List.head_replicate]
    exact beq_false_of_ne hne

/-- Pieces that are empty do not count. -/
theorem extent_filter (pieces : List (Nat × Text)) : extent (pieces.filter (0 < ·.1)) = extent pieces := by
  unfold extent
  induction pieces with
  | nil => rfl
  | cons piece rest ih =>
      by_cases hpositive : 0 < piece.1
      · rw [List.filter_cons_of_pos (by simpa using hpositive), List.map_cons, List.sum_cons, ih, List.map_cons,
          List.sum_cons]
      · rw [List.filter_cons_of_neg (by simpa using hpositive), ih, List.map_cons, List.sum_cons]
        omega

/-! ## Cells -/

/-- The pieces of a bar for the cells that the colours ask for: what fits of each, and the dim rest. -/
def pieces (width : Nat) (counts : List (Nat × Text)) : List (Nat × Text) :=
  let filled := cut width (counts.map fun piece => (min piece.1 width, piece.2))
  filled ++ [(width - extent filled, ("dim" : Text))]

/-- The cells of a bar are those of its pieces. -/
theorem cells_eq_unroll (width : Nat) (counts : List (Nat × Text)) : cells width counts = unroll (pieces width counts) := by
  have hasked : (counts.flatMap fun piece => List.replicate (min piece.1 width) piece.2) =
      unroll (counts.map fun piece => (min piece.1 width, piece.2)) := by
    unfold unroll
    rw [List.flatMap_map]
  have happend (filled : List (Nat × Text)) (rest : Nat × Text) :
      unroll (filled ++ [rest]) = unroll filled ++ List.replicate rest.1 rest.2 := by
    unfold unroll
    rw [List.flatMap_append, List.flatMap_singleton]
  unfold cells pieces
  dsimp only
  rw [happend, unroll_cut, ← length_unroll, unroll_cut]
  exact congrArg (fun asked : List Text => asked.take width ++
    List.replicate (width - (asked.take width).length) ("dim" : Text)) hasked

/-- The pieces of a bar are together as wide as the bar. -/
theorem extent_pieces (width : Nat) (counts : List (Nat × Text)) : extent (pieces width counts) = width := by
  rw [← length_unroll, ← cells_eq_unroll, length_cells]

theorem colors_pieces (width : Nat) (counts : List (Nat × Text)) :
    (pieces width counts).map (·.2) = counts.map (·.2) ++ [("dim" : Text)] := by
  unfold pieces
  simp [colors_cut]

/-- A piece with cells is dim, or as many cells were asked for. -/
theorem exists_of_mem_pieces {width : Nat} {counts : List (Nat × Text)} {piece : Nat × Text}
    (h : piece ∈ pieces width counts) : piece.2 = "dim" ∨ ∃ n, piece.1 ≤ n ∧ (n, piece.2) ∈ counts := by
  rcases List.mem_append.mp h with h | h
  · obtain ⟨n, hle, hmem⟩ := exists_of_mem_cut h
    obtain ⟨⟨asked, color⟩, hasked, heq⟩ := List.mem_map.mp hmem
    obtain ⟨rfl, rfl⟩ := Prod.mk.inj heq
    exact .inr ⟨asked, Nat.le_trans hle (Nat.min_le_left _ _), hasked⟩
  · obtain rfl := List.mem_singleton.mp h
    exact .inl rfl

/-! ## Counts -/

variable {width : Int} {c : Counts} {counts : List (Nat × Text)}

/-- The cells that are asked for belong to the counts, colour by colour. -/
theorem forall₂_of_cellCounts (h : cellCounts width c = .ok counts) :
    List.Forall₂ (fun count piece => piece.2 = count.2 ∧ cellCount width c.total count.1 = .ok piece.1)
      c.colored counts := by
  refine (mapM_eq_ok_iff.mp h).imp fun {count piece} hpiece => ?_
  obtain ⟨cells, hcells, hpiece⟩ := bind_eq_ok_iff.mp hpiece
  cases hpiece
  exact ⟨rfl, hcells⟩

theorem colors_of_cellCounts (h : cellCounts width c = .ok counts) :
    counts.map (·.2) = (["green", "red", "yellow", "magenta"] : List Text) := by
  have hcolors : counts.map (·.2) = c.colored.map (·.2) := by
    have hasked := forall₂_of_cellCounts h
    clear h
    generalize c.colored = colored at hasked ⊢
    induction hasked with
    | nil => rfl
    | cons hfirst _ ih => rw [List.map_cons, List.map_cons, hfirst.1, ih]
  exact hcolors

/-- Cells are asked for by a count. -/
theorem exists_of_mem_cellCounts (h : cellCounts width c = .ok counts) {piece : Nat × Text} (hmem : piece ∈ counts) :
    ∃ count, (count, piece.2) ∈ c.colored ∧ cellCount width c.total count = .ok piece.1 := by
  have hasked := forall₂_of_cellCounts h
  clear h
  generalize c.colored = colored at hasked ⊢
  induction hasked with
  | nil => cases hmem
  | @cons count first _ _ hfirst _ ih =>
      rcases List.mem_cons.mp hmem with rfl | hmem
      · exact ⟨count.1, hfirst.1 ▸ List.mem_cons_self, hfirst.2⟩
      · obtain ⟨found, hfound, hcells⟩ := ih hmem
        exact ⟨found, List.mem_cons_of_mem _ hfound, hcells⟩

theorem eq_of_listLength {n length : Nat} (h : listLength n = .ok length) : length = n := by
  unfold listLength lengthOf at h
  by_cases hlarge : largestLength < (n : Int).natAbs
  · rw [if_pos hlarge] at h
    cases h
  · rw [if_neg hlarge] at h
    change (if memorySize < itemSize * n then _ else _) = _ at h
    split at h
    · cases h
    · cases h
      rfl

/-- No cell is asked for where nothing was counted. -/
theorem eq_zero_of_cellCount {width total n : Nat} (h : cellCount width total (0 : Nat) = .ok n) : n = 0 := by
  have hshare : quotient (0 : Nat) total = .ok (ofMagnitude false 0) := by
    have hsign : decide ((total : Int) < 0) = false := decide_eq_false (by omega)
    unfold quotient quotient?
    rw [hsign]
    rfl
  have hparts : Parts.ofFloat (ofMagnitude false 0) = .finite false 0 (-1074) := parts_ofMagnitude (by decide)
  unfold cellCount at h
  rw [hshare] at h
  cases hwidth : double width with
  | error fault =>
      rw [hwidth] at h
      cases h
  | ok whole =>
      obtain ⟨m, e, hwhole⟩ := exists_parts_of_double hwidth
      rw [hwidth] at h
      change (liftM (rounded (ofMagnitude false 0 * whole)) >>= fun cells : Int =>
        (listLength cells).mapError (·.failure) : Except Failure Nat) = _ at h
      rw [rounded_zero_mul hparts hwhole] at h
      cases h
      rfl

/-! ## Spans -/

/-- The markup of a piece: its cells between the tags of its colour.  Dim cells are light. -/
def span (piece : Nat × Text) : Text :=
  "[" ++ piece.2 ++ "]" ++ .ofList (List.replicate piece.1 (if piece.2 = "dim" then '░' else '█')) ++
    "[/" ++ piece.2 ++ "]"

/-- The cells of a piece are written in one span. -/
theorem cellRun_replicate {piece : Nat × Text} (h : 1 ≤ piece.1) :
    cellRun ((List.replicate piece.1 piece.2).headD "dim") (List.replicate piece.1 piece.2).length = span piece := by
  obtain ⟨n, color⟩ := piece
  cases n with
  | zero => cases h
  | succ n =>
      rw [List.length_replicate]
      rfl

/-- Pieces fill a bar: none is empty, they are together as wide as the bar, their colours are different and come in a
fixed order, and a colour that is not dim stands for cases that were counted. -/
structure Fill (width : Nat) (c : Counts) (pieces : List (Nat × Text)) : Prop where
  nonempty : ∀ piece ∈ pieces, 1 ≤ piece.1
  extent : extent pieces = width
  order : (pieces.map (·.2)).Sublist (["green", "red", "yellow", "magenta", "dim"] : List Text)
  counted : ∀ piece ∈ pieces, piece.2 ≠ "dim" → ∃ count, (count, piece.2) ∈ c.colored ∧ 0 < count

/-- The pieces with cells fill a bar. -/
theorem fill_pieces {width passed failed skipped errors : Nat} {counts : List (Nat × Text)}
    (h : cellCounts width ⟨passed, failed, skipped, errors⟩ = .ok counts) :
    Fill width ⟨passed, failed, skipped, errors⟩ ((pieces width counts).filter (0 < ·.1)) := by
  have htotal : Counts.total ⟨passed, failed, skipped, errors⟩ = ((passed + failed + skipped + errors : Nat) : Int) := by
    simp only [Counts.total, Int.natCast_add]
  constructor
  case nonempty =>
    intro piece hpiece
    exact of_decide_eq_true (List.mem_filter.mp hpiece).2
  case extent => rw [extent_filter, extent_pieces]
  case order =>
    refine (List.filter_sublist.map _).trans ?_
    rw [colors_pieces, colors_of_cellCounts h]
    exact List.Sublist.refl _
  case counted =>
    intro piece hpiece hcolor
    obtain ⟨hmem, hpositive⟩ := List.mem_filter.mp hpiece
    obtain ⟨n, hle, hn⟩ := (exists_of_mem_pieces hmem).resolve_left hcolor
    obtain ⟨count, hcount, hcells⟩ := exists_of_mem_cellCounts h hn
    have hnat : ∃ k : Nat, count = k := by
      simp only [Counts.colored, List.mem_cons, List.not_mem_nil, or_false, Prod.mk.injEq] at hcount
      rcases hcount with ⟨rfl, -⟩ | ⟨rfl, -⟩ | ⟨rfl, -⟩ | ⟨rfl, -⟩
      · exact ⟨passed, rfl⟩
      · exact ⟨failed, rfl⟩
      · exact ⟨skipped, rfl⟩
      · exact ⟨errors, rfl⟩
    obtain ⟨k, rfl⟩ := hnat
    refine ⟨k, hcount, ?_⟩
    have hk : k ≠ 0 := by
      rintro rfl
      rw [htotal] at hcells
      have hnone := eq_zero_of_cellCount hcells
      have hsome : 0 < piece.1 := of_decide_eq_true hpositive
      omega
    omega

/-- However the shares of the outcomes are rounded, a bar is made of spans that fill its width; and there is a bar if
its cells fit into memory. -/
theorem resultBar_spans {width : Nat} (hwidth : 1 ≤ width) (passed failed skipped errors : Nat) :
    (∀ bar, resultBar width ⟨passed, failed, skipped, errors⟩ = .ok bar →
      ∃ pieces, bar = Text.join (pieces.map span) ∧ Fill width ⟨passed, failed, skipped, errors⟩ pieces) ∧
    (itemSize * width ≤ memorySize → ∃ bar, resultBar width ⟨passed, failed, skipped, errors⟩ = .ok bar) := by
  refine ⟨fun bar h => ?_, fun hfits => exists_resultBar_eq_ok hwidth hfits passed failed skipped errors⟩
  unfold resultBar at h
  by_cases hzero : Counts.total ⟨passed, failed, skipped, errors⟩ = 0
  · rw [if_pos hzero] at h
    obtain ⟨length, hlength, hbar⟩ := bind_eq_ok_iff.mp h
    cases hbar
    have hwhole : length = width := by
      cases hasked : listLength width with
      | error fault =>
          rw [hasked] at hlength
          cases hlength
      | ok found =>
          rw [hasked] at hlength
          cases hlength
          exact eq_of_listLength hasked
    subst hwhole
    refine ⟨[(length, "dim")], ?_, ?_⟩
    · exact congrArg Text.ofList (List.append_nil _).symm
    · constructor
      case nonempty => simpa using hwidth
      case extent => rfl
      case order =>
        change ([("dim" : Text)]).Sublist _
        decide
      case counted => simp
  · rw [if_neg hzero] at h
    obtain ⟨counts, hcounts, hbar⟩ := bind_eq_ok_iff.mp h
    cases hbar
    have hfill := fill_pieces hcounts
    refine ⟨_, ?_, hfill⟩
    have hcolors : ((pieces width counts).map (·.2)).Nodup := by
      rw [colors_pieces, colors_of_cellCounts hcounts]
      decide
    rw [Int.toNat_natCast, cells_eq_unroll, splitBy_unroll hcolors, List.map_map]
    refine congrArg Text.join (List.map_congr_left fun piece hpiece => ?_)
    exact cellRun_replicate (hfill.nonempty piece hpiece)

/-- Three shares of a third take six of seven cells. -/
theorem resultBar_spans_thirds :
    ∃ bar pieces, resultBar 7 ⟨1, 1, 1, 0⟩ = .ok bar ∧ bar = Text.join (pieces.map span) ∧
      Fill 7 ⟨1, 1, 1, 0⟩ pieces := by
  obtain ⟨hspans, hfits⟩ := @resultBar_spans 7 (by decide) 1 1 1 0
  obtain ⟨bar, hbar⟩ := hfits (by decide)
  obtain ⟨pieces, hjoin, hfill⟩ := hspans bar hbar
  exact ⟨bar, pieces, hbar, hjoin, hfill⟩

example : resultBar 7 ⟨1, 1, 1, 0⟩ = .ok "[green]██[/green][red]██[/red][yellow]██[/yellow][dim]░[/dim]" := by
  decide +kernel

end Conformance.Terminal
