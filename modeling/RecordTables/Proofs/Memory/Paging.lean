import Mathlib.Algebra.Ring.Nat
import RecordTables.Proofs.Column.Faults
import RecordTables.Proofs.Memory.SortedSelection

/-!
The windows of one request are parts of one list of rows: pages that follow each other lie side by side in
it, and only the rows of a page are read for it.
-/

namespace RecordTables

/-- The request for another window of the same rows. -/
def Request.page (request : Request) (offset limit : Signed 64) : Request :=
  { request with offset := offset, limit := limit }

/-- What is left of a list behind an offset, cut to a limit; neither counts unless it is positive. -/
def paged {α : Type} (offset limit : Int) (items : List α) : List α :=
  let rest := items.drop (max offset 0).toNat
  if 0 < limit then rest.take limit.toNat else rest

/-- Pages by offset and limit that follow each other without a gap from some place on. -/
def Consecutive : Int → List (Signed 64 × Signed 64) → Prop
  | _, [] => True
  | start, (offset, limit) :: later =>
    offset.value = start ∧ 0 < limit.value ∧ Consecutive (start + limit.value) later

section Pages

variable {α : Type}

/-- A page and the page behind it are one page of both limits. -/
theorem paged_append {offset first second : Int} (items : List α) (placed : 0 ≤ offset)
    (nonempty : 0 < first) (follows : 0 < second) :
    paged offset first items ++ paged (offset + first) second items =
      paged offset (first + second) items := by
  have ends : (max (offset + first) 0).toNat = (max offset 0).toNat + first.toNat := by omega
  have length : (first + second).toNat = first.toNat + second.toNat := by omega
  have both : 0 < first + second := by omega
  simp only [paged, if_pos nonempty, if_pos follows, if_pos both, ends, length]
  -- The second page starts where the first one was cut.
  rw [← List.drop_drop, List.take_add]

/-- Consecutive pages together are all rows from the first offset on, as far as their limits reach. -/
theorem flatten_consecutive (items : List α) :
    ∀ {start : Int} {pages : List (Signed 64 × Signed 64)}, 0 ≤ start → Consecutive start pages →
      (pages.map fun page => paged page.1.value page.2.value items).flatten =
        (items.drop start.toNat).take (pages.map fun page => page.2.value.toNat).sum := by
  -- The first page is cut off, and the others start behind it.
  intro start pages placed consecutive
  induction pages generalizing start with
  | nil => simp
  | cons page later ih =>
    obtain ⟨offset, limit⟩ := page
    obtain ⟨begins, positive, follows⟩ := consecutive
    have next : (start + limit.value).toNat = start.toNat + limit.value.toNat := by omega
    have place : (max start 0).toNat = start.toNat := by omega
    simp only [List.map_cons, List.flatten_cons, List.sum_cons, ih (by omega) follows, begins]
    rw [paged, if_pos positive, place, next, List.take_add, List.drop_drop]

/-- From any offset there are as many pages of one size as have offsets of 64 bits. -/
theorem exists_consecutive {size : Signed 64} (positive : 0 < size.value) (count : Nat) :
    ∀ {start : Int}, 0 ≤ start → start + (count - 1) * size.value < 2 ^ 63 →
      ∃ pages, Consecutive start pages ∧ (∀ page ∈ pages, page.2 = size) ∧ pages.length = count := by
  -- The offset of the first page is no greater than that of the last.
  induction count with
  | zero => exact fun _ _ => ⟨[], trivial, by simp, rfl⟩
  | succ count ih =>
    intro start placed fits
    have grown : start + ((count + 1 : Nat) - 1) * size.value = start + count * size.value := by simp
    rw [grown] at fits
    have others : 0 ≤ (count : Int) * size.value := Int.mul_nonneg (by omega) (by omega)
    have later : start + size.value + (count - 1) * size.value = start + count * size.value := by
      rw [Int.sub_mul, Int.one_mul]
      omega
    have placedLater : 0 ≤ start + size.value := by omega
    obtain ⟨pages, consecutive, sizes, length⟩ := ih placedLater (later ▸ fits)
    refine ⟨(⟨start, by omega, by omega⟩, size) :: pages, ⟨rfl, positive, consecutive⟩, ?_, ?_⟩
    · exact List.forall_mem_cons.mpr ⟨rfl, sizes⟩
    · rw [List.length_cons, length]

end Pages

/-- What is done for all items succeeds with the results that it has for each of them. -/
theorem mapM_eq_ok_iff {α β : Type} {action : α → Except Failure β} {items : List α}
    {results : List β} : items.mapM action = .ok results ↔ items.map action = results.map .ok := by
  -- Both sides say it of the first item and of the rest.
  induction items generalizing results with
  | nil => cases results <;> simp [Pure.pure, Except.pure]
  | cons first rest ih =>
    constructor
    · intro done
      obtain ⟨result, others, head, tail, rfl⟩ := mapM_cons_ok done
      rw [List.map_cons, List.map_cons, head, ih.mp tail]
    · intro each
      cases results with
      | nil => simp at each
      | cons result others =>
        obtain ⟨head, tail⟩ := List.cons.inj each
        rw [List.mapM_cons, head, ih.mpr tail]
        rfl

/-- What is done alike for all items of a list is done alike for the list. -/
theorem mapM_congr {α β : Type} {action other : α → Except Failure β} {items : List α}
    (alike : ∀ item ∈ items, action item = other item) : items.mapM action = items.mapM other := by
  -- The first failure ends both runs, so that they stay alike item by item.
  induction items with
  | nil => rfl
  | cons first rest ih =>
    obtain ⟨head, tail⟩ := List.forall_mem_cons.mp alike
    rw [List.mapM_cons, List.mapM_cons, head, ih tail]

namespace MemoryTable

/-- The window of a page is the part of the rows from its offset to its limit. -/
theorem window_page {α : Type} (request : Request) (offset limit : Signed 64) (items : List α) :
    window (request.page offset limit) items = paged offset.value limit.value items := by
  -- A negative offset is none, as the truncation of the number says too.
  have place : (max offset.value 0).toNat = offset.value.toNat := by omega
  simp only [window, paged, Request.page, place]
  rfl

/-- A page of a request that passes the checks is a part of all rows that the request selects. -/
theorem select_page {table : MemoryTable} {request : Request}
    (accepted : table.checkRequest request = .ok ()) (offset limit : Signed 64) :
    table.select (request.page offset limit) =
      .ok (paged offset.value limit.value (matching request table.rows)) := by
  -- Neither the checks nor the order of the rows depend on the window.
  have checked : table.checkRequest (request.page offset limit) = .ok () := accepted
  rw [select, checked, ← window_page request]
  rfl

/-- Pages of one size visit every row once, if the rows can be counted in 64 bits. -/
theorem exists_pages {α : Type} {size : Signed 64} (positive : 0 < size.value) {items : List α}
    (counted : items.length < 2 ^ 63) :
    ∃ pages, Consecutive 0 pages ∧ (∀ page ∈ pages, page.2 = size) ∧
      (pages.map fun page => paged page.1.value page.2.value items).flatten = items := by
  -- As many pages are needed as the length divided by the size, rounded up.
  let step := size.value.toNat
  let count := (items.length + (step - 1)) / step
  have spread : size.value = (step : Int) := by omega
  have reached : items.length ≤ count * step := by
    have bound : items.length + (step - 1) < count * step + step := Nat.lt_div_mul_add (by omega)
    omega
  -- The last page begins within the numbers of 64 bits, because its begin is less than the length.
  have last : (0 : Int) + (count - 1) * size.value < 2 ^ 63 := by
    have bound : count * step ≤ items.length + (step - 1) := Nat.div_mul_le_self _ step
    rw [Int.sub_mul, Int.one_mul, spread]
    have product : (count : Int) * step = ((count * step : Nat) : Int) := by simp
    omega
  obtain ⟨pages, consecutive, sizes, length⟩ := exists_consecutive positive count (Int.le_refl 0) last
  refine ⟨pages, consecutive, sizes, ?_⟩
  -- All limits are the size, so together they reach the end of the items.
  have limits : pages.map (fun page => page.2.value.toNat) = List.replicate count step := by
    refine List.eq_replicate_iff.mpr ⟨by simp [length], ?_⟩
    intro limit member
    obtain ⟨page, within, rfl⟩ := List.mem_map.mp member
    rw [sizes page within]
  rw [flatten_consecutive items (Int.le_refl 0) consecutive, limits, List.sum_replicate_nat]
  exact List.take_of_length_le reached

/--
For a request that passes the checks, every page is a part of the rows that it selects without a window. A
query for a page fails as the first row of the page does that cannot be read, and otherwise gives what is
read of them in order, whatever the rows outside of the page are. A page and the page behind it are one
page of both limits, pages that follow each other from the start visit every row once if they reach the
last one, and there are such pages of every size.
-/
theorem pages_tile {α : Type} {table : MemoryTable} {request : Request}
    (accepted : table.checkRequest request = .ok ()) (reader : RecordReader α) :
    ∃ rows, table.select (request.page (.zero 64) (.zero 64)) = .ok rows ∧
      (∀ offset limit : Signed 64,
        table.select (request.page offset limit) = .ok (paged offset.value limit.value rows) ∧
        (failure? (table.query reader (request.page offset limit)) =
          (paged offset.value limit.value rows).findSome? fun row =>
            failure? (table.readRow reader row)) ∧
        (∀ items, table.query reader (request.page offset limit) = .ok items ↔
          (paged offset.value limit.value rows).map (table.readRow reader) = items.map .ok) ∧
        ∀ (other : MemoryTable) (otherReader : RecordReader α),
          other.select (request.page offset limit) = .ok (paged offset.value limit.value rows) →
          (∀ row ∈ paged offset.value limit.value rows,
            other.readRow otherReader row = table.readRow reader row) →
          other.query otherReader (request.page offset limit) =
            table.query reader (request.page offset limit)) ∧
      (∀ offset first next second both : Signed 64, 0 ≤ offset.value → 0 < first.value →
        0 < second.value → next.value = offset.value + first.value →
        both.value = first.value + second.value →
        paged offset.value first.value rows ++ paged next.value second.value rows =
          paged offset.value both.value rows) ∧
      (∀ pages, Consecutive 0 pages →
        rows.length ≤ (pages.map fun page => page.2.value.toNat).sum →
        (pages.map fun page => paged page.1.value page.2.value rows).flatten = rows) ∧
      ∀ size : Signed 64, 0 < size.value → rows.length < 2 ^ 63 →
        ∃ pages, Consecutive 0 pages ∧ (∀ page ∈ pages, page.2 = size) ∧
          (pages.map fun page => paged page.1.value page.2.value rows).flatten = rows := by
  -- The rows of all pages are those that match, in their order, whatever part of them is asked for.
  refine ⟨matching request table.rows, ?_, ?_, ?_, ?_, fun size positive counted =>
    exists_pages positive counted⟩
  · exact select_page accepted (.zero 64) (.zero 64)
  · intro offset limit
    have selection := select_page accepted offset limit
    have query := query_of_select selection reader
    refine ⟨selection, ?_, ?_, ?_⟩
    · rw [query, failure?_mapM]
    · intro items
      rw [query, mapM_eq_ok_iff]
    · intro other otherReader same alike
      -- The same rows are read, each with the same result.
      rw [query, query_of_select same otherReader]
      exact mapM_congr alike
  · intro offset first next second both placed positive follows begins length
    rw [begins, length]
    exact paged_append _ placed positive follows
  · intro pages consecutive reached
    rw [flatten_consecutive _ (Int.le_refl 0) consecutive]
    exact List.take_of_length_le reached

/-- Reads the points of a round, which null is not. -/
def pointsReader : RecordReader Readout := ReadPlan.readout [.field "points" (.signed .bits64)]

/-- The round without a score cannot be read, which fails the pages that show it and no others. -/
theorem pages_tile_rounds :
    rounds.checkRequest rankedRounds = .ok () ∧
    rounds.select (rankedRounds.page nextRounds.offset nextRounds.limit) =
      .ok [round "c" (score 5), round "a" (score 3)] ∧
    failure? (rounds.query pointsReader (rankedRounds.page nextRounds.offset nextRounds.limit)) =
      none ∧
    failure? (rounds.query pointsReader (rankedRounds.page (.zero 64) nextRounds.limit)) =
      some (.rowScan "rounds" "points" "expected integer, got null") := by
  have accepted : rounds.checkRequest rankedRounds = .ok () := rfl
  obtain ⟨rows, all, pages, _⟩ := pages_tile accepted pointsReader
  -- Without a window the four rounds that pass stand as they are sorted.
  have sorted : matching rankedRounds rounds.rows = [round "b" .null, round "c" (score 5),
    round "a" (score 3), round "d" (score 3)] := matching_nextRounds
  rw [select_page accepted, sorted] at all
  cases all
  obtain ⟨selection, failure, _⟩ := pages nextRounds.offset nextRounds.limit
  obtain ⟨_, first, _⟩ := pages (.zero 64) nextRounds.limit
  refine ⟨accepted, selection, ?_, ?_⟩
  · rw [failure]
    rfl
  · rw [first]
    rfl

end MemoryTable

end RecordTables
