import RecordTables.Proofs.Value.Tagged
import RecordTables.Request.Basic

/-! Requests are read back from their own documents. -/

namespace RecordTables

namespace Filter

/-- Whether the value of a clause can be written without a loss. -/
def Writable (filter : Filter) : Prop := filter.value.Writable

/-- A comparison is read back from its spelling in SQL. -/
theorem ofWritten?_sql (comparison : Comparison) :
    Comparison.ofWritten? (Json.string comparison.sql).written = some comparison := by
  cases comparison <;> rfl

/-- A clause is read back from its document. -/
theorem ofWritten?_toJson {filter : Filter} (writable : filter.Writable) :
    ofWritten? filter.toJson.written = some filter := by
  -- All three members are there in the order of their names, so that each is found and read for itself.
  have fields : filter.toJson.written.fields? ["field", "operator", "value"] =
      some ⟨true, [some (.string (some filter.column)), some (Json.string filter.comparison.sql).written,
        some filter.value.toJson.written]⟩ := rfl
  rw [ofWritten?, fields]
  simp only [Option.bind_eq_bind, Option.bind_some, Written.text?, ofWritten?_sql,
    Value.ofWritten?_toJson writable]
  rfl

/-- What is read as a clause can be written without a loss, and is no deeper. -/
structure Sound (filter : Filter) (depth : Nat) : Prop where
  writable : filter.Writable
  shallow : filter.toJson.depth ≤ depth

/-- What is read as a clause is sound. -/
theorem sound_of_ofWritten? {written : Written} {filter : Filter}
    (read : ofWritten? written = some filter) : filter.Sound written.depth := by
  obtain ⟨fields, found, rest⟩ := Option.bind_eq_some_iff.mp read
  split at rest
  · -- The value lies in the clause, one level further down.
    rename_i column comparison value values
    simp only [Option.bind_eq_bind, Option.bind_eq_some_iff] at rest
    obtain ⟨_, _, _, _, held, given, same⟩ := rest
    cases same
    have present : some value ∈ fields.values := by simp [values]
    have inside := Written.depth_field found present
    obtain ⟨writable, shallow⟩ := Value.sound_of_ofWritten? given
    refine ⟨writable, Nat.le_trans (Json.depth_object_le ?_) inside⟩
    simp only [List.forall_mem_cons, List.not_mem_nil, false_imp_iff, implies_true, and_true]
    exact ⟨Nat.zero_le _, Nat.zero_le _, shallow⟩
  · cases rest

end Filter

namespace Request

/-- Whether the values of all clauses can be written without a loss. -/
def Writable (request : Request) : Prop := ∀ filter ∈ request.filters, filter.Writable

/-- Clauses are read back from their documents. -/
theorem filters?_toJson {filters : List Filter} (writable : ∀ filter ∈ filters, filter.Writable) :
    filters? (Json.array (filters.map Filter.toJson)).written = some filters := by
  -- Each clause is read back for itself.
  show (Json.writtenItems (filters.map Filter.toJson)).mapM Filter.ofWritten? = some filters
  rw [Json.writtenItems_eq, List.map_map]
  exact mapM_map_some fun filter member => Filter.ofWritten?_toJson (writable filter member)

/-- The fields that are found in the document of a request; only the sort column may be missing. -/
theorem fields?_toJson (request : Request) :
    request.toJson.written.fields? ["filters", "sortBy", "descending", "limit", "offset"] =
      some ⟨true, [some (Json.array (request.filters.map Filter.toJson)).written,
        request.sortBy.map fun column => .string (some column), some (.boolean request.descending),
        some (Value.ofSigned request.limit).written, some (Value.ofSigned request.offset).written]⟩ := by
  unfold toJson
  cases request.sortBy <;> rfl

/-- A sort column is read back, whether there is one or not. -/
theorem sortByField?_written (sortBy : Option String) :
    sortByField? true (sortBy.map fun column => .string (some column)) = some sortBy := by
  cases sortBy <;> rfl

/-- A request is read back from its document. -/
theorem ofWritten?_toJson {request : Request} (writable : request.Writable) :
    ofWritten? request.toJson.written = some request := by
  -- All fields are there, so that no default is taken.
  rw [ofWritten?, fields?_toJson]
  simp only [Option.bind_eq_bind, Option.bind_some, Written.orDefault?, Written.boolean?,
    filters?_toJson writable, sortByField?_written, Value.signed?_ofSigned]
  rfl

/-- What is read as clauses is sound, and no deeper than the text. -/
theorem sound_filters? {written : Written} {filters : List Filter}
    (read : filters? written = some filters) :
    (∀ filter ∈ filters, filter.Writable) ∧
      (Json.array (filters.map Filter.toJson)).depth ≤ written.depth := by
  obtain ⟨items, inside, found⟩ := Option.bind_eq_some_iff.mp read
  -- Clauses are read from an array only, and each of them from one of its items.
  have same : written = .array items := by
    cases written with
    | array given =>
      cases inside
      rfl
    | _ => cases inside
  subst written
  have sound : ∀ filter ∈ filters, filter.Sound (Written.depthItems items) := by
    intro filter member
    obtain ⟨item, present, given⟩ := exists_of_mem_mapM found member
    obtain ⟨writable, shallow⟩ := Filter.sound_of_ofWritten? given
    exact ⟨writable, Nat.le_trans shallow (Written.depthItems_le.mp (Nat.le_refl _) item present)⟩
  refine ⟨fun filter member => (sound filter member).writable, Json.depth_array_le ?_⟩
  rw [List.forall_mem_map]
  exact fun filter member => (sound filter member).shallow

/-- What is read as a request can be written without a loss, and is no deeper than the text or two levels. -/
structure Sound (request : Request) (depth : Nat) : Prop where
  writable : request.Writable
  shallow : request.toJson.depth ≤ max 2 depth

/-- A request is one deeper than its clauses. -/
theorem depth_toJson_le (request : Request) {bound : Nat}
    (clauses : (Json.array (request.filters.map Filter.toJson)).depth ≤ bound) :
    request.toJson.depth ≤ bound + 1 := by
  -- The sort column may be missing, and all other fields but the clauses hold no arrays or objects.
  refine Json.depth_object_le ?_
  cases request.sortBy <;>
    simp only [List.cons_append, List.nil_append, List.forall_mem_cons, List.not_mem_nil, false_imp_iff,
      implies_true, and_true]
  · exact ⟨clauses, Nat.zero_le _, Nat.zero_le _, Nat.zero_le _⟩
  · exact ⟨clauses, Nat.zero_le _, Nat.zero_le _, Nat.zero_le _, Nat.zero_le _⟩

/-- What is read as a request is sound. -/
theorem sound_of_ofWritten? {written : Written} {request : Request}
    (read : ofWritten? written = some request) : request.Sound written.depth := by
  obtain ⟨fields, found, rest⟩ := Option.bind_eq_some_iff.mp read
  split at rest
  · rename_i filters sortBy descending limit offset values
    simp only [Option.bind_eq_bind, Option.bind_eq_some_iff] at rest
    obtain ⟨held, given, _, _, _, _, _, _, _, _, same⟩ := rest
    cases same
    cases filters with
    | none =>
      -- The request writes the clauses that were left out as an empty list.
      cases given
      have empty : (Json.array (([] : List Filter).map Filter.toJson)).depth ≤ 1 := Nat.le_refl 1
      exact ⟨List.forall_mem_nil _, Nat.le_trans (depth_toJson_le _ empty) (Nat.le_max_left ..)⟩
    | some filters =>
      have present : some filters ∈ fields.values := by simp [values]
      have inside := Written.depth_field found present
      obtain ⟨writable, shallow⟩ := sound_filters? given
      refine ⟨writable, Nat.le_trans (depth_toJson_le _ shallow) ?_⟩
      exact Nat.le_trans inside (Nat.le_max_right ..)
  · cases rest

end Request

end RecordTables
