import OrmCode.Proofs.Outcome
import OrmCode.Proofs.Statement.Filter

/-!
# Walks through filters

A filter is rendered on a walk that comes to each of its comparisons once, from left to right.
The same walk can be taken by steps of any kind, so that what it comes to can be recorded.
-/

namespace OrmCode

namespace Filter

/-- A count of the comparisons of filters, by the form of the filter. -/
structure IsLeafCount (count : Filter → Nat) : Prop where
  comparison : ∀ leaf, count (comparison leaf) = 1
  group : ∀ connective operands, count (group connective operands) = (operands.map count).sum
  negation : ∀ operand, count (negation operand) = count operand

theorem isLeafCount_leafCount : IsLeafCount leafCount where
  comparison _ := rfl
  group := leafCount_group
  negation := leafCount_negation

section Walk

variable {Failure : Type} (renderer : Renderer Failure)

/-- The walk of a renderer through a filter, where each comparison is rendered by a step. -/
def walk {Step : Type → Type} [Monad Step] (compare : Comparison → Step String) :
    Filter → Step String
  | comparison leaf => compare leaf
  | group connective operands => renderer.group connective <$> walkAll compare operands
  | negation operand => renderer.negate <$> operand.walk compare
where
  /-- The walk through several filters in order. -/
  walkAll {Step : Type → Type} [Monad Step] (compare : Comparison → Step String) :
      List Filter → Step (List String)
    | [] => pure []
    | operand :: operands => do
      let first ← operand.walk compare
      let others ← walkAll compare operands
      return first :: others

/-- The text of a filter whose comparisons have the given texts from left to right. -/
def filled : Filter → List String → String
  | comparison _, texts => texts.headD ""
  | group connective operands, texts => renderer.group connective (filledAll operands texts)
  | negation operand, texts => renderer.negate (operand.filled texts)
where
  /-- The texts of several filters, each with as many texts as it has comparisons. -/
  filledAll : List Filter → List String → List String
    | [], _ => []
    | operand :: operands, texts =>
      operand.filled (texts.take operand.leafCount) ::
        filledAll operands (texts.drop operand.leafCount)

/-- A filter whose groups are joined, without an exception for those of one operand, from the
texts of its comparisons. -/
def image (text : Comparison → String) : Filter → String
  | comparison leaf => text leaf
  | group connective operands => renderer.combine connective (operands.map (image text))
  | negation operand => renderer.negate (operand.image text)

section Lawful

variable {Step : Type → Type} [Monad Step] [LawfulMonad Step]

/-- What follows some steps only sees as many results as there are steps. -/
theorem bind_mapM_congr {Value Result Other : Type} {step : Value → Step Result}
    {values : List Value} {next other : List Result → Step Other}
    (same : ∀ results, results.length = values.length → next results = other results) :
    values.mapM step >>= next = values.mapM step >>= other := by
  induction values generalizing next other with
  | nil => simpa using same [] rfl
  | cons value values induction =>
      simp only [List.mapM_cons, bind_assoc, pure_bind]
      refine bind_congr fun first => ?_
      exact induction fun results length => same (first :: results) (by simp [length])

theorem walkAll_eq {compare : Comparison → Step String} {operands : List Filter}
    (each : ∀ operand ∈ operands, operand.walk renderer compare =
      operand.filled renderer <$> operand.leaves.mapM compare) :
    walk.walkAll renderer compare operands =
      filled.filledAll renderer operands <$> (operands.flatMap leaves).mapM compare := by
  induction operands with
  | nil => simp [walk.walkAll, filled.filledAll]
  | cons operand operands induction =>
      obtain ⟨here, later⟩ := List.forall_mem_cons.mp each
      rw [walk.walkAll, here, induction later, List.flatMap_cons, List.mapM_append]
      simp only [map_bind, bind_map_left, map_pure]
      -- The first operand takes its own texts back, as many as it has comparisons.
      refine bind_mapM_congr fun texts length => ?_
      refine bind_congr fun others => ?_
      rw [length_leaves] at length
      have taken : (texts ++ others).take operand.leafCount = texts := List.take_left' length
      have left : (texts ++ others).drop operand.leafCount = others := List.drop_left' length
      rw [filled.filledAll, taken, left]

/-- Whatever the steps do, the walk through a filter comes to its comparisons alone, to each of
them once and from left to right. -/
theorem walk_eq (compare : Comparison → Step String) (filter : Filter) :
    filter.walk renderer compare = filter.filled renderer <$> filter.leaves.mapM compare := by
  induction filter with
  | comparison leaf => simp [walk, leaves, filled]
  | group connective operands induction =>
      rw [walk, walkAll_eq renderer induction, leaves_group, Functor.map_map]
      rfl
  | negation operand induction =>
      rw [walk, induction, Functor.map_map]
      rfl

end Lawful

/-- Rendering is the walk whose steps may fail. -/
theorem render_eq_walk (filter : Filter) :
    filter.render renderer = filter.walk renderer renderer.comparison := by
  induction filter with
  | comparison leaf => rfl
  | group connective operands induction =>
      have all : render.renderAll renderer operands =
          walk.walkAll renderer renderer.comparison operands := by
        induction operands with
        | nil => rfl
        | cons operand operands rest =>
            obtain ⟨here, later⟩ := List.forall_mem_cons.mp induction
            rw [render.renderAll, walk.walkAll, here, rest later]
      rw [render, walk, all]
      rfl
  | negation operand induction =>
      rw [render, walk, induction]
      rfl

/-- The rendering of a comparison, which is recorded behind those before it. -/
def recorded (leaf : Comparison) : ExceptT Failure (StateM (List Comparison)) String := do
  modify (· ++ [leaf])
  liftExcept (renderer.comparison leaf)

/-- The outcome of the walk of a renderer, and the comparisons that it has rendered or failed
to render, in order. -/
def visit (filter : Filter) : Except Failure String × List Comparison :=
  (filter.walk renderer (recorded renderer)).run.run []

/-- The outcome of rendering some comparisons one after another, and those that have been
rendered or failed to, behind those before. -/
def visitAll (visited seen : List Comparison) : Except Failure (List String) × List Comparison :=
  (visited.mapM (recorded renderer)).run.run seen

theorem visitAll_of_ok {leaf : Comparison} {text : String}
    (passed : renderer.comparison leaf = .ok text) (visited seen : List Comparison) :
    visitAll renderer (leaf :: visited) seen =
      Prod.map (Except.map (text :: ·)) id (visitAll renderer visited (seen ++ [leaf])) := by
  rw [visitAll, List.mapM_cons, recorded, passed]
  -- The first comparison is recorded and passes, whatever follows.
  change ((text :: ·) <$> visited.mapM (recorded renderer)).run.run (seen ++ [leaf]) = _
  rw [ExceptT.run_map, StateT.run_map]
  rfl

theorem visitAll_of_error {leaf : Comparison} {failure : Failure}
    (failed : renderer.comparison leaf = .error failure) (visited seen : List Comparison) :
    visitAll renderer (leaf :: visited) seen = (.error failure, seen ++ [leaf]) := by
  rw [visitAll, List.mapM_cons, recorded, failed]
  rfl

theorem visit_eq (filter : Filter) :
    filter.visit renderer =
      Prod.map (Except.map (filter.filled renderer)) id (visitAll renderer filter.leaves []) := by
  rw [visit, walk_eq, ExceptT.run_map, StateT.run_map]
  rfl

theorem fst_visitAll (visited seen : List Comparison) :
    (visitAll renderer visited seen).1 = visited.mapM renderer.comparison := by
  induction visited generalizing seen with
  | nil => rfl
  | cons leaf visited induction =>
      rw [List.mapM_cons]
      cases outcome : renderer.comparison leaf with
      | error failure =>
          rw [visitAll_of_error renderer outcome]
          rfl
      | ok text =>
          rw [visitAll_of_ok renderer outcome, Prod.map_fst, induction]
          cases visited.mapM renderer.comparison <;> rfl

/-- To record the comparisons does not change the outcome. -/
theorem render_eq_fst_visit (filter : Filter) :
    filter.render renderer = (filter.visit renderer).1 := by
  rw [render_eq_walk, walk_eq, visit_eq, Prod.map_fst, fst_visitAll]
  rfl

variable {renderer} {text : Comparison → String} {visited before : List Comparison}

theorem visitAll_of_passes
    (passes : ∀ leaf ∈ visited, renderer.comparison leaf = .ok (text leaf))
    (seen : List Comparison) :
    visitAll renderer visited seen = (.ok (visited.map text), seen ++ visited) := by
  induction visited generalizing seen with
  | nil =>
      rw [List.append_nil]
      rfl
  | cons leaf visited induction =>
      obtain ⟨here, later⟩ := List.forall_mem_cons.mp passes
      rw [visitAll_of_ok renderer here, induction later, List.append_assoc]
      rfl

theorem visitAll_of_fails {leaf : Comparison} {failure : Failure}
    (passes : ∀ earlier ∈ before, ∃ text, renderer.comparison earlier = .ok text)
    (failed : renderer.comparison leaf = .error failure) (after seen : List Comparison) :
    visitAll renderer (before ++ leaf :: after) seen =
      (.error failure, seen ++ (before ++ [leaf])) := by
  induction before generalizing seen with
  | nil => exact visitAll_of_error renderer failed after seen
  | cons first before induction =>
      obtain ⟨⟨text, here⟩, later⟩ := List.forall_mem_cons.mp passes
      rw [List.cons_append, visitAll_of_ok renderer here, induction later, List.append_assoc]
      rfl

theorem exists_first_failing
    (fails : ∃ leaf ∈ visited, ∀ text, renderer.comparison leaf ≠ .ok text) :
    ∃ before leaf after failure, visited = before ++ leaf :: after ∧
      (∀ earlier ∈ before, ∃ text, renderer.comparison earlier = .ok text) ∧
      renderer.comparison leaf = .error failure := by
  induction visited with
  | nil => simp at fails
  | cons first visited induction =>
      cases outcome : renderer.comparison first with
      | error failure => exact ⟨[], first, visited, failure, rfl, nofun, outcome⟩
      | ok text =>
          obtain ⟨leaf, member, fails⟩ := fails
          have later : leaf ∈ visited := by
            rcases List.mem_cons.mp member with rfl | later
            · exact absurd outcome (fails text)
            · exact later
          obtain ⟨before, leaf, after, failure, rfl, passes, failed⟩ :=
            induction ⟨leaf, later, fails⟩
          exact ⟨first :: before, leaf, after, failure, rfl,
            List.forall_mem_cons.mpr ⟨⟨text, outcome⟩, passes⟩, failed⟩

/-- A group is joined from its operands as if it were one, unless it is its only operand. -/
theorem image_groupOf (connective : Connective) (operands : List Filter) :
    (groupOf connective operands).image renderer text =
      renderer.group connective (operands.map (image renderer text)) := by
  match operands with
  | [] => rw [groupOf, image, Renderer.group] <;> simp
  | [only] => rfl
  | first :: second :: others => rw [groupOf, image, Renderer.group] <;> simp

theorem filledAll_map {operands : List Filter}
    (each : ∀ operand ∈ operands,
      operand.filled renderer (operand.leaves.map text) = operand.collapsed.image renderer text) :
    filled.filledAll renderer operands ((operands.flatMap leaves).map text) =
      (operands.map collapsed).map (image renderer text) := by
  induction operands with
  | nil => rfl
  | cons operand operands induction =>
      obtain ⟨here, later⟩ := List.forall_mem_cons.mp each
      have length : (operand.leaves.map text).length = operand.leafCount := by
        rw [List.length_map, length_leaves]
      rw [List.flatMap_cons, List.map_append, filled.filledAll, List.take_left' length,
        List.drop_left' length, here, induction later]
      rfl

/-- A filter is filled with texts that depend on the comparisons alone. -/
theorem filled_map (filter : Filter) :
    filter.filled renderer (filter.leaves.map text) = filter.collapsed.image renderer text := by
  induction filter with
  | comparison leaf =>
      rw [collapsed, image]
      rfl
  | group connective operands induction =>
      rw [filled, leaves_group, filledAll_map induction, collapsed, image_groupOf]
  | negation operand induction => rw [filled, leaves, induction, collapsed, image]

end Walk

/-- Rendering comes to each comparison of a filter once and from left to right, as many as the
filter has by the count over its parts.  If all can be rendered, the text is that of the filter
without groups of one operand, joined part by part.  If some cannot, rendering fails as the first
of these does, and comes to no comparison behind it. -/
theorem render_visits_leaves {Failure : Type} (renderer : Renderer Failure) (filter : Filter) :
    filter.render renderer = filter.walk renderer renderer.comparison ∧
    filter.render renderer = (filter.visit renderer).1 ∧
    (∀ text : Comparison → String,
      (∀ leaf ∈ filter.leaves, renderer.comparison leaf = .ok (text leaf)) →
      filter.visit renderer = (.ok (filter.collapsed.image renderer text), filter.leaves)) ∧
    ((∃ leaf ∈ filter.leaves, ∀ text, renderer.comparison leaf ≠ .ok text) →
      ∃ before leaf after failure, filter.leaves = before ++ leaf :: after ∧
        (∀ earlier ∈ before, ∃ text, renderer.comparison earlier = .ok text) ∧
        renderer.comparison leaf = .error failure ∧
        filter.visit renderer = (.error failure, before ++ [leaf])) ∧
    IsLeafCount leafCount ∧ filter.leaves.length = filter.leafCount := by
  refine ⟨render_eq_walk renderer filter, render_eq_fst_visit renderer filter,
    fun text passes => ?_, fun fails => ?_, isLeafCount_leafCount,
    length_leaves filter⟩
  · rw [visit_eq, visitAll_of_passes passes, List.nil_append, Prod.map_apply, Except.map,
      filled_map]
    rfl
  · obtain ⟨before, leaf, after, failure, split, passes, failed⟩ := exists_first_failing fails
    refine ⟨before, leaf, after, failure, split, passes, failed, ?_⟩
    rw [visit_eq, split, visitAll_of_fails passes failed, List.nil_append]
    rfl

/-- A renderer that shows the column of each comparison, and fails for unknown operators. -/
def columnRenderer : Renderer String where
  comparison leaf :=
    if leaf.comparator.isOther then .error leaf.comparator.sql else .ok leaf.column
  combine connective operands :=
    (if connective = .conjunction then "all(" else "any(") ++ ", ".intercalate operands ++ ")"
  negate operand := "not " ++ operand

/-- A group within a group of one operand, and a comparison that stands twice. -/
def nestedFilter (second last : Comparator) : Filter :=
  group .conjunction [
    group .disjunction [
      group .disjunction [compare "a" .equal .null, compare "b" second .null]],
    negation (group .conjunction [compare "a" .equal .null]),
    compare "c" last .null]

theorem visit_nestedFilter :
    (nestedFilter .less .like).visit columnRenderer =
        (.ok "all(any(a, b), not a, c)", (nestedFilter .less .like).leaves) ∧
      (nestedFilter .less .like).leafCount = 4 ∧
      ∃ before leaf after failure,
        (nestedFilter (.other "~") (.other "!~")).leaves = before ++ leaf :: after ∧
        (∀ earlier ∈ before, ∃ text, columnRenderer.comparison earlier = .ok text) ∧
        columnRenderer.comparison leaf = .error failure ∧
        (nestedFilter (.other "~") (.other "!~")).visit columnRenderer =
          (.error failure, before ++ [leaf]) := by
  obtain ⟨-, -, rendered, -, -, counted⟩ :=
    render_visits_leaves columnRenderer (nestedFilter .less .like)
  obtain ⟨-, -, -, refused, -⟩ :=
    render_visits_leaves columnRenderer (nestedFilter (.other "~") (.other "!~"))
  have passes : ∀ leaf ∈ (nestedFilter .less .like).leaves,
      columnRenderer.comparison leaf = .ok leaf.column := by
    decide
  have fails : ∃ leaf ∈ (nestedFilter (.other "~") (.other "!~")).leaves,
      ∀ text, columnRenderer.comparison leaf ≠ .ok text :=
    ⟨⟨"c", .other "!~", .single .null⟩, by decide, nofun⟩
  have text : (nestedFilter .less .like).collapsed.image columnRenderer Comparison.column =
      "all(any(a, b), not a, c)" := by
    simp only [nestedFilter, compare, collapsed, groupOf, image, List.map_cons, List.map_nil]
    decide
  refine ⟨?_, counted.symm.trans rfl, refused fails⟩
  rw [rendered Comparison.column passes, text]

end Filter

end OrmCode
