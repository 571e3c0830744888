import RowFilter.Proofs.Filter.Building
import RowFilter.Proofs.Filter.Leafwise
import RowFilter.Proofs.Plan.Calls

/-!
# Projections

The columns that an expression needs are those at the roots of its paths (`FilterExpr.roots`).  On
a batch that is left with them it stands for the same condition, or has the same error, and a plan
that comes out has resolved all of its paths (`FilterExpr.condition_project`).
-/

namespace RowFilter

variable {Field Predicate : Type}

namespace Compiler

variable {compiler : Compiler Field} {backend : Backend Field Predicate}

mutual

/-- The plan of an expression that comes out has resolved the paths of the expression. -/
theorem includes_compile :
  ∀ {expr : FilterExpr} {result : Option Predicate},
    (compiler.compile expr).run backend = .ok result → ∀ path ∈ expr.paths,
      (compiler.compile expr).Includes backend
        (Path.resolve compiler.typeOf path : Plan Field Predicate Field)
  | .empty, _, _, _, hpath => by cases hpath
  | .comparison path op operand, _, h, _, hpath => by
      obtain rfl := List.mem_singleton.mp hpath
      rw [compile, Plan.run_bind] at h
      obtain ⟨condition, hcondition, -⟩ := Except.bind_eq_ok_iff.mp h
      have hcomparison := hcondition
      rw [comparison, Plan.run_bind] at hcomparison
      obtain ⟨resolved, hresolved, -⟩ := Except.bind_eq_ok_iff.mp hcomparison
      rw [compile]
      apply Plan.Includes.bind_left _ hcondition
      rw [comparison]
      apply (Plan.Includes.refl hresolved).bind_left hresolved
  | .group op children, _, h, path, hpath => by
      rw [compile] at h ⊢
      apply includes_compileAll h path hpath
  | .negation child, _, h, path, hpath => by
      rw [compile, Plan.run_bind] at h
      obtain ⟨condition, hcondition, -⟩ := Except.bind_eq_ok_iff.mp h
      rw [compile]
      apply (includes_compile hcondition path hpath).bind_left hcondition

/-- The plan of a group that comes out has resolved the paths of its members. -/
theorem includes_compileAll {op : Connective} :
  ∀ {children : List FilterExpr} {before result : Option Predicate},
    (compiler.compileAll op before children).run backend = .ok result →
      ∀ path ∈ FilterExpr.allPaths children,
        (compiler.compileAll op before children).Includes backend
          (Path.resolve compiler.typeOf path : Plan Field Predicate Field)
  | [], _, _, _, _, hpath => by cases hpath
  | child :: rest, _, _, h, path, hpath => by
      rw [compileAll, Plan.run_bind] at h
      obtain ⟨condition, hcondition, h⟩ := Except.bind_eq_ok_iff.mp h
      rw [Plan.run_bind] at h
      obtain ⟨both, hboth, hrest⟩ := Except.bind_eq_ok_iff.mp h
      rw [compileAll]
      obtain hchild | hpath := List.mem_append.mp hpath
      · apply (includes_compile hcondition path hchild).bind_left hcondition
      · apply Plan.Includes.bind_right _ hcondition
        apply Plan.Includes.bind_right _ hboth
        apply includes_compileAll hrest path hpath

end

end Compiler

/-! ### Columns that are needed -/

/-- The batch that is left with the columns of some names. -/
def Batch.project (batch : Batch) (names : List String) : Batch :=
  ⟨batch.rows, batch.columns.filter fun column => names.contains column.1⟩

/-- The first segments of the paths that an expression needs. -/
def FilterExpr.roots (expr : FilterExpr) : List String :=
  expr.requiredFields.filterMap fun path => (Path.segments path).head?

/-- The first entry of a name is the same among those of some names, if it is one of them. -/
theorem lookup_filter_contains {names : List String} {name : String} (h : name ∈ names)
    (columns : List (String × Column)) :
  (columns.filter fun column => names.contains column.1).lookup name = columns.lookup name
  := by
  induction columns with
  | nil => rfl
  | cons entry rest ih =>
      obtain ⟨other, column⟩ := entry
      rw [List.filter_cons, List.lookup_cons]
      split
      · rw [List.lookup_cons, ih]
      · next hother =>
          have hne : (name == other) = false := by
            rw [beq_eq_false_iff_ne]
            rintro rfl
            apply hother
            rw [List.contains_iff_mem]
            apply h
          rw [hne, ih]

/-- A batch that is left with columns of some names has the same fields of these names. -/
theorem Batch.field?_project {batch : Batch} {names : List String} {name : String}
    (h : name ∈ names) :
  (batch.project names).field? name = batch.field? name
  := by
  rw [field?, field?, project, lookup_filter_contains h]

/-- A comparison is read the same on every batch, once its path has led to a field. -/
theorem Compiler.readAlike_refl (batch other : Batch) (coercion : Coercion)
    (comparison : Comparison) (field : ColumnField) :
  ReadAlike Eq batch other coercion coercion comparison comparison field field
  := by
  constructor
  case folded =>
    rw [run_folded_eq, run_folded_eq]
    apply Except.Alike.refl (fun _ => rfl)
    apply ColumnField.AnswersAlike.refl fun _ => rfl
  case orderable_eq => rfl
  case unordered => rfl
  case operand =>
    apply Operand.Corresponds.refl
    intro value
    apply Except.Alike.refl (fun _ => rfl) fun _ => rfl
  case refused => rfl

namespace FilterExpr

/-- An expression stands for the same condition, or has the same error, on a batch that is left
with the columns at the roots of the paths that the expression needs.  When its plan comes out on
some backend, it has resolved each of these paths, and noted it. -/
theorem condition_project (expr : FilterExpr) :
  (∀ (batch : Batch) (coercion : Coercion),
    (batch.project expr.roots).condition coercion expr = batch.condition coercion expr) ∧
  ∀ (Field Predicate : Type) (compiler : Compiler Field) (backend : Backend Field Predicate)
    (result : Option Predicate), (compiler.compile expr).run backend = .ok result →
      ∀ path ∈ expr.requiredFields,
        (compiler.compile expr).Includes backend
          (Path.resolve compiler.typeOf path : Plan Field Predicate Field)
  := by
  refine ⟨?sufficient, ?necessary⟩
  case sufficient =>
    intro batch coercion
    apply Except.Alike.eq
    apply Batch.condition_alike fun _ => rfl
    rintro ⟨path, op, operand⟩ hmem
    have hpath : path ∈ expr.requiredFields := mem_requiredFields.mpr ⟨_, hmem, rfl⟩
    have hresolve : ((Path.resolve ColumnField.type path).run
          (batch.project expr.roots).backend).Alike Eq Eq
        ((Path.resolve ColumnField.type path).run batch.backend) := by
      apply Path.resolve_alike (fun _ => Eq) fun _ => rfl
      · intro name rest hsegments
        have hname : name ∈ expr.roots := by
          rw [roots, List.mem_filterMap]
          exact ⟨path, hpath, by rw [hsegments, List.head?_cons]⟩
        rw [Batch.field?_project hname]
        cases batch.field? name with
        | none => exact .none
        | some field => exact .some rfl
      · rintro field _ name rest rfl
        apply Except.Alike.refl (fun _ => rfl)
        intro child
        cases child with
        | none => exact .none
        | some child => exact .some rfl
    apply Compiler.comparison_alike (fun _ => rfl) hresolve
    rintro field _ - - rfl
    apply Compiler.readAlike_refl
  case necessary =>
    intro Field Predicate compiler backend result hresult path hpath
    apply Compiler.includes_compile hresult
    rw [paths_eq]
    obtain ⟨comparison, hmem, rfl⟩ := mem_requiredFields.mp hpath
    apply List.mem_map_of_mem hmem

/-- Of two columns of a name both are left, and the first one is read. -/
theorem condition_project_sameName :
  let batch : Batch := ⟨2,
    [("b", .leaf .boolean [some (.bool true), none]),
     ("a", .leaf (.int .w32) [some (.int 1), some (.int 2)]),
     ("a", .leaf .boolean [none, none])]⟩
  let expr : FilterExpr :=
    .group .or [.comparison "a" (.relation .gt) (.scalar (.number (.integer 1))),
      .negation (.comparison "a" (.relation .ne) (.scalar .null))]
  let coercion : Coercion := ⟨Converter.standard DateFormats.default, true⟩
  (batch.project expr.roots).columns.map Prod.fst = ["a", "a"] ∧
  (batch.project expr.roots).condition coercion expr = batch.condition coercion expr ∧
  batch.condition coercion expr = .ok (some [some false, some true]) ∧
  (Compiler.compile ⟨ColumnField.type, coercion⟩ expr).Includes batch.backend
    (Path.resolve ColumnField.type "a")
  := by
  intro batch expr coercion
  have hroots : expr.roots = ["a"] := by decide
  have hresult : batch.condition coercion expr = .ok (some [some false, some true]) := rfl
  obtain ⟨hsufficient, hnecessary⟩ := condition_project expr
  refine ⟨by rw [hroots]; rfl, hsufficient batch coercion, hresult, ?_⟩
  apply hnecessary ColumnField Mask ⟨ColumnField.type, coercion⟩ batch.backend _ hresult "a"
  decide

end FilterExpr

end RowFilter
