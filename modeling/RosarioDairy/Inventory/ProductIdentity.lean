import RosarioDairy.CatalogueEdits
import RosarioDairy.Foundations.UniqueKeys
import RosarioDairy.Outcomes
import RosarioDairy.Text

/-!
# ProductIdentity — one product under each identity

`ProductSerializer` compares a new or edited product with all the others before it is saved, in Python
and without a lock or a constraint.  Case folding enters as a function, since its table is not part of
the repository.
-/

namespace RosarioDairy
namespace ProductIdentity

open Foundations CatalogueEdits

/-- A product; its columns are those of `CatalogueEdits`. -/
structure ProductRow where
  pk : Nat
  columns : (c : ProductColumn) → c.Value

instance : Row ProductRow := ⟨ProductRow.pk⟩

/-! ## Identities -/

section Identities

variable (casefold : String → String)

/-- `product_name_key`: the name without whitespace and parentheses, case-folded. -/
def productNameKey (value : String) : String :=
  casefold (String.ofList (value.toList.filter fun c => !(isSpace c || c = '(' || c = ')')))

structure Identity where
  name : String
  unit : String
  variant : String
  deriving DecidableEq, Repr

/-- The key of `duplicate_product_groups`; a missing variant counts as an empty one. -/
def identity (columns : (c : ProductColumn) → c.Value) : Identity :=
  let variant : Option String := columns .variant
  { name := productNameKey casefold (columns .name)
    unit := casefold (strip (columns .unit))
    variant := casefold (strip (variant.getD "")) }

def ProductRow.identity (product : ProductRow) : Identity :=
  ProductIdentity.identity casefold product.columns

/-- No two products have the same identity. -/
def UniqueIdentities (products : Table ProductRow) : Prop :=
  products.UniqueBy fun product => product.identity casefold

end Identities

/-! ## Requests -/

/-- The validated data of a new product. -/
structure ProductForm where
  category : Nat
  name : String
  unit : String
  variant : Option (Option String)
  shelfLife : Int
  deriving Repr

def ProductForm.columns (form : ProductForm) (now : Int) : (c : ProductColumn) → c.Value
  | .category => form.category
  | .name => form.name
  | .unit => form.unit
  | .variant => form.variant.getD none
  | .shelfLife => form.shelfLife
  | .isActive => true
  | .createdAt => now

/-- A request creates a product, or edits the one it has read; `unitPrice` says whether it names a unit
price. -/
inductive ProductRequest
  | create (form : ProductForm) (unitPrice : Bool)
  | update (instanceRow : ProductRow) (attrs : ProductAttrs) (unitPrice : Bool)

namespace ProductRequest

def instancePk : ProductRequest → Option Nat
  | .create .. => none
  | .update row .. => some row.pk

/-- The key that `validate` looks for: of the attributes, and of the instance where they are silent. -/
def validatedIdentity (casefold : String → String) : ProductRequest → Identity
  | .create form _ =>
      { name := productNameKey casefold form.name
        unit := casefold (strip form.unit)
        variant := casefold (strip ((form.variant.getD none).getD "")) }
  | .update row attrs _ =>
      let variant : Option String := attrs.variant.getD (row.columns .variant)
      { name := productNameKey casefold (attrs.name.getD (row.columns .name))
        unit := casefold (strip (attrs.unit.getD (row.columns .unit)))
        variant := casefold (strip (variant.getD "")) }

def namesUnitPrice : ProductRequest → Bool
  | .create _ unitPrice => unitPrice
  | .update _ _ unitPrice => unitPrice

/-- `ProductSerializer.validate` against all other products. -/
def validate (casefold : String → String) (products : List ProductRow) (request : ProductRequest) :
    Except Error Unit := do
  require (request.namesUnitPrice = false)
    (.validationError "unit_price" "Enter the selling price on each sale or order item instead.")
  let same (product : ProductRow) : Bool :=
    some product.pk ≠ request.instancePk ∧
      product.identity casefold = request.validatedIdentity casefold
  match products.find? same with
  | none => return
  | some product =>
      let name : String := product.columns .name
      .error (.validationError "name" ("This product already exists as " ++ name ++ " (ID " ++
        toString product.pk ++ "). Use the existing product."))

/-- `serializer.save()` -/
def save (now : Int) (products : Table ProductRow) : ProductRequest → Table ProductRow
  | .create form _ => products.create fun pk => { pk := pk, columns := form.columns now }
  | .update row attrs _ =>
      products.put
        { pk := row.pk
          columns := (partialUpdate attrs.named).onto row.columns row.columns }

end ProductRequest

/-- A request that has been received, or that has been validated against the rows it has seen. -/
inductive ProductTask
  | received (request : ProductRequest)
  | validated (request : ProductRequest) (seen : List ProductRow)

inductive ProductAction
  | post (id : Nat) (form : ProductForm) (unitPrice : Bool)
  | patch (id pk : Nat) (attrs : ProductAttrs) (unitPrice : Bool)
  | validate (id : Nat)
  | save (id : Nat) (now : Int)
  | refuse (id : Nat)

/-- The products and the requests under way. -/
structure ProductDesk where
  products : Table ProductRow
  tasks : Nat → Option ProductTask

namespace ProductDesk

def init (products : Table ProductRow) : ProductDesk :=
  { products := products
    tasks := fun _ => none }

def setTask (S : ProductDesk) (id : Nat) (task : Option ProductTask) : ProductDesk :=
  { S with tasks := Function.update S.tasks id task }

def step (casefold : String → String) (S : ProductDesk) : ProductAction → ProductDesk
  | .post id form unitPrice =>
      match S.tasks id with
      | none => S.setTask id (some (.received (.create form unitPrice)))
      | some _ => S
  | .patch id pk attrs unitPrice =>
      match S.tasks id, S.products.find pk with
      | none, some row => S.setTask id (some (.received (.update row attrs unitPrice)))
      | _, _ => S
  | .validate id =>
      match S.tasks id with
      | some (.received request) =>
          match request.validate casefold S.products.rows with
          | .ok _ => S.setTask id (some (.validated request S.products.rows))
          | .error _ => S.setTask id none
      | _ => S
  | .save id now =>
      match S.tasks id with
      | some (.validated request _) =>
          { S.setTask id none with products := request.save now S.products }
      | _ => S
  | .refuse id => S.setTask id none

def run (casefold : String → String) (S : ProductDesk) (actions : List ProductAction) :
    ProductDesk :=
  runAll (step casefold) S actions

/-- The action saves a request although another product, saved since its validation, has its
identity. -/
def Overtaken (casefold : String → String) (S : ProductDesk) : ProductAction → Prop
  | .save id _ => ∃ request seen row, S.tasks id = some (.validated request seen) ∧
      row ∈ S.products.rows ∧ row ∉ seen ∧ some row.pk ≠ request.instancePk ∧
        row.identity casefold = request.validatedIdentity casefold
  | _ => False

end ProductDesk

/-! ## What a request saves -/

section Requests

variable {casefold : String → String} {products : Table ProductRow} {request : ProductRequest}
  {now : Int}

theorem validate_eq_ok {rows : List ProductRow} {u : Unit}
    (h : request.validate casefold rows = .ok u) :
    ∀ row ∈ rows, some row.pk ≠ request.instancePk →
      row.identity casefold ≠ request.validatedIdentity casefold := by
  obtain ⟨-, h⟩ := require_bind_eq_ok.1 h
  dsimp only at h
  split at h
  · rename_i hnone
    intro row hrow hother hsame
    have hfree := List.find?_eq_none.1 hnone row hrow
    simp [hother, hsame] at hfree
  · cases h

/-- The key that a request saves a product under. -/
def savedPk (products : Table ProductRow) (request : ProductRequest) : Nat :=
  request.instancePk.getD products.next

/-- A new product has a key of its own. -/
theorem pk_ne_savedPk {row : ProductRow} (hrow : row ∈ products.rows)
    (hother : some row.pk ≠ request.instancePk) : row.pk ≠ savedPk products request := by
  intro hpk
  unfold savedPk at hpk
  cases hinstance : request.instancePk with
  | none =>
      have hlt : row.pk < products.next := products.below row hrow
      rw [hinstance, Option.getD_none] at hpk
      exact absurd hpk (Nat.ne_of_lt hlt)
  | some pk =>
      rw [hinstance, Option.getD_some] at hpk
      exact hother (by rw [hinstance, hpk])

variable (casefold) in
/-- A product after a save: an old one, other than the instance, or the one saved, with the identity
that was validated. -/
theorem mem_save {row : ProductRow} (h : row ∈ (request.save now products).rows) :
    row ∈ products.rows ∧ some row.pk ≠ request.instancePk ∨
      row.pk = savedPk products request ∧
        row.identity casefold = request.validatedIdentity casefold := by
  cases request with
  | create form unitPrice =>
      rcases List.mem_append.1 h with hold | hnew
      · refine Or.inl ⟨hold, fun hEq => ?_⟩
        cases hEq
      · rw [List.mem_singleton.1 hnew]
        exact Or.inr ⟨rfl, rfl⟩
  | update instanceRow attrs unitPrice =>
      rcases Table.mem_put.1 h with ⟨hold, hpk⟩ | ⟨rfl, -⟩
      · exact Or.inl ⟨hold, fun hEq => hpk (Option.some.inj hEq)⟩
      · exact Or.inr ⟨rfl, rfl⟩

variable (request now) in
/-- The products other than the instance stay, and the saved one is there. -/
theorem save_mem (hinstance : ∀ pk, request.instancePk = some pk → ∃ row ∈ products.rows, row.pk = pk) :
    (∀ row ∈ products.rows, some row.pk ≠ request.instancePk →
      row ∈ (request.save now products).rows) ∧
    ∃ row ∈ (request.save now products).rows, row.pk = savedPk products request := by
  cases request with
  | create form unitPrice =>
      constructor
      · exact fun row hrow _ => List.mem_append.2 (Or.inl hrow)
      · exact ⟨_, List.mem_append.2 (Or.inr (List.mem_singleton.2 rfl)), rfl⟩
  | update instanceRow attrs unitPrice =>
      constructor
      · intro row hrow hother
        exact Table.mem_put.2 (Or.inl ⟨hrow, fun hEq => hother (congrArg some hEq)⟩)
      · obtain ⟨row, hrow, hpk⟩ := hinstance instanceRow.pk rfl
        exact ⟨_, Table.mem_put.2 (Or.inr ⟨rfl, row, hrow, hpk⟩), rfl⟩

theorem UniqueIdentities.save (h : UniqueIdentities casefold products)
    (hfree : ∀ row ∈ products.rows, some row.pk ≠ request.instancePk →
      row.identity casefold ≠ request.validatedIdentity casefold) :
    UniqueIdentities casefold (request.save now products) := by
  cases request with
  | create form unitPrice =>
      exact Table.UniqueBy.create h fun row hrow => hfree row hrow fun hEq => by cases hEq
  | update instanceRow attrs unitPrice =>
      exact Table.UniqueBy.put h fun row hrow hpk =>
        hfree row hrow fun hEq => hpk (Option.some.inj hEq)

end Requests

/-! ## Every run -/

def ProductTask.request : ProductTask → ProductRequest
  | .received request => request
  | .validated request _ => request

/-- The products a request has been compared with. -/
def ProductTask.seen : ProductTask → List ProductRow
  | .received _ => []
  | .validated _ seen => seen

/-- The instance of every request exists, and no other product that a request has seen has its
identity. -/
structure TasksChecked (casefold : String → String) (S : ProductDesk) : Prop where
  instances : ∀ id task, S.tasks id = some task → ∀ pk, task.request.instancePk = some pk →
    ∃ row ∈ S.products.rows, row.pk = pk
  seen : ∀ id task, S.tasks id = some task → ∀ row ∈ task.seen,
    some row.pk ≠ task.request.instancePk →
      row.identity casefold ≠ task.request.validatedIdentity casefold

section Runs

variable {casefold : String → String} {S : ProductDesk}

theorem tasksChecked_init (products : Table ProductRow) :
    TasksChecked casefold (ProductDesk.init products) :=
  { instances := fun _ _ h => by cases h
    seen := fun _ _ h => by cases h }

theorem tasks_setTask {id k : Nat} {task : Option ProductTask} {t : ProductTask}
    (h : (S.setTask id task).tasks k = some t) : task = some t ∨ S.tasks k = some t := by
  by_cases hk : k = id
  · subst hk
    exact Or.inl (by simpa [ProductDesk.setTask] using h)
  · exact Or.inr (by simpa [ProductDesk.setTask, Function.update_of_ne hk] using h)

/-- A request begins, goes on or ends. -/
theorem TasksChecked.setTask (h : TasksChecked casefold S) (id : Nat) {task : Option ProductTask}
    (hinstance : ∀ t, task = some t → ∀ pk, t.request.instancePk = some pk →
      ∃ row ∈ S.products.rows, row.pk = pk)
    (hseen : ∀ t, task = some t → ∀ row ∈ t.seen, some row.pk ≠ t.request.instancePk →
      row.identity casefold ≠ t.request.validatedIdentity casefold) :
    TasksChecked casefold (S.setTask id task) := by
  constructor
  · intro k t ht
    rcases tasks_setTask ht with hnew | hold
    · exact hinstance t hnew
    · exact h.instances k t hold
  · intro k t ht
    rcases tasks_setTask ht with hnew | hold
    · exact hseen t hnew
    · exact h.seen k t hold

theorem TasksChecked.endTask (h : TasksChecked casefold S) (id : Nat) :
    TasksChecked casefold (S.setTask id none) :=
  h.setTask id (fun _ ht => by cases ht) (fun _ ht => by cases ht)

theorem step_checked (h : TasksChecked casefold S) (action : ProductAction) :
    TasksChecked casefold (S.step casefold action) := by
  cases action with
  | post id form unitPrice =>
      -- a new request has neither an instance nor rows seen
      simp only [ProductDesk.step]
      split
      · refine h.setTask id ?_ ?_
        · intro t ht pk hpk
          cases ht
          cases hpk
        · intro t ht row hrow
          cases ht
          cases hrow
      · exact h
  | patch id pk attrs unitPrice =>
      simp only [ProductDesk.step]
      split
      · rename_i row _ hfind
        refine h.setTask id ?_ ?_
        · intro t ht pk' hpk
          cases ht
          cases hpk
          -- the row to edit was found in the table
          exact ⟨row, (Table.find_eq_some.1 hfind).1, rfl⟩
        · intro t ht row' hrow
          cases ht
          cases hrow
      · exact h
  | validate id =>
      simp only [ProductDesk.step]
      split
      · rename_i request htask
        split
        · rename_i hvalid
          refine h.setTask id ?_ ?_
          · intro t ht
            cases ht
            -- validation remembers the rows it has seen and keeps the request
            exact h.instances id (.received request) htask
          · intro t ht
            cases ht
            exact validate_eq_ok hvalid
        · exact h.endTask id
      · exact h
  | save id now =>
      simp only [ProductDesk.step]
      split
      · rename_i request seen htask
        have hended := h.endTask id
        -- the other tasks keep their instances: a save replaces a row by one of the same key
        refine ⟨?_, hended.seen⟩
        intro k t ht pk hpk
        obtain ⟨row, hrow, rfl⟩ := hended.instances k t ht pk hpk
        have hsaved := save_mem request now (h.instances id _ htask)
        by_cases hother : some row.pk = request.instancePk
        · obtain ⟨new, hnew, hnewpk⟩ := hsaved.2
          refine ⟨new, hnew, ?_⟩
          rw [hnewpk, savedPk, ← hother]
          rfl
        · exact ⟨row, hsaved.1 row hrow hother, rfl⟩
      · exact h
  | refuse id => exact h.endTask id

theorem run_checked (products : Table ProductRow) (actions : List ProductAction) :
    TasksChecked casefold ((ProductDesk.init products).run casefold actions) :=
  runAll_preserves (P := TasksChecked casefold) (fun _ action h => step_checked h action) actions
    (tasksChecked_init products)

/-- A save that is not overtaken keeps identities unique. -/
theorem step_unique (h : TasksChecked casefold S) (hunique : UniqueIdentities casefold S.products)
    {action : ProductAction} (hovertaken : ¬ S.Overtaken casefold action) :
    UniqueIdentities casefold (S.step casefold action).products := by
  cases action with
  | post id form unitPrice =>
      simp only [ProductDesk.step]
      split
      · exact hunique
      · exact hunique
  | patch id pk attrs unitPrice =>
      simp only [ProductDesk.step]
      split
      · exact hunique
      · exact hunique
  | validate id =>
      simp only [ProductDesk.step]
      split
      · split
        · exact hunique
        · exact hunique
      · exact hunique
  | save id now =>
      simp only [ProductDesk.step]
      split
      · rename_i request seen htask
        refine hunique.save ?_
        -- the saved identity clashes neither with a row seen nor, unless overtaken, with another
        intro row hrow hother hsame
        by_cases hseen : row ∈ seen
        · exact h.seen id _ htask row hseen hother hsame
        · exact hovertaken ⟨request, seen, row, htask, hrow, hseen, hother, hsame⟩
      · exact hunique
  | refuse id => exact hunique

/-- A save that is overtaken makes a duplicate. -/
theorem step_duplicates (h : TasksChecked casefold S) {action : ProductAction}
    (hovertaken : S.Overtaken casefold action) :
    ¬ UniqueIdentities casefold (S.step casefold action).products := by
  cases action with
  | save id now =>
      obtain ⟨request, seen, row, htask, hrow, -, hother, hsame⟩ := hovertaken
      have hstep : (S.step casefold (.save id now)).products = request.save now S.products := by
        simp only [ProductDesk.step, htask]
      rw [hstep]
      intro hunique
      obtain ⟨hkept, new, hnew, hnewpk⟩ := save_mem request now (h.instances id _ htask)
      have hpk : row.pk ≠ savedPk S.products request := pk_ne_savedPk hrow hother
      rcases mem_save casefold hnew with ⟨hold, hnewother⟩ | ⟨-, hidentity⟩
      · exact pk_ne_savedPk hold hnewother hnewpk
      · have hduplicate := hunique row (hkept row hrow hother) new hnew
          (hsame.trans hidentity.symm)
        exact hpk (hduplicate.trans hnewpk)
  | post id form unitPrice => exact hovertaken.elim
  | patch id pk attrs unitPrice => exact hovertaken.elim
  | validate id => exact hovertaken.elim
  | refuse id => exact hovertaken.elim

end Runs

/-- From a catalogue without duplicates, identities stay unique exactly as long as no request is saved
after another product has been saved with its identity since its validation. -/
theorem product_identity_unique (casefold : String → String) (products : Table ProductRow)
    (hunique : UniqueIdentities casefold products) (actions : List ProductAction) :
    (∀ pre post, actions = pre ++ post → UniqueIdentities casefold
      ((ProductDesk.init products).run casefold pre).products) ↔
    EachStep (ProductDesk.step casefold) (fun S action => ¬ S.Overtaken casefold action)
      (ProductDesk.init products) actions := by
  constructor
  · intro h
    refine EachStep.of_prefixes ?_
    rintro pre action post rfl hovertaken
    refine step_duplicates (run_checked products pre) hovertaken ?_
    have hafter := h (pre ++ [action]) post (by simp)
    rw [ProductDesk.run, runAll_append] at hafter
    exact hafter
  · rintro h pre post rfl
    refine (EachStep.preserves
      (I := fun S => TasksChecked casefold S ∧ UniqueIdentities casefold S.products) ?_
      ⟨tasksChecked_init products, hunique⟩ (EachStep.append.1 h).1).2
    rintro S action ⟨hchecked, hkept⟩ hovertaken
    exact ⟨step_checked hchecked action, step_unique hchecked hkept hovertaken⟩

/-! ## The same product twice -/

/-- A product with only a name. -/
def namedProduct (name : String) : ProductForm :=
  { category := 1
    name := name
    unit := "kg"
    variant := none
    shelfLife := 7 }

/-- A product is created, and then another. -/
def createTwo : List ProductAction :=
  [.post 1 (namedProduct "Milk") false, .validate 1, .save 1 0,
    .post 2 (namedProduct "Curd") false, .validate 2, .save 2 0]

theorem product_identity_unique_two :
    UniqueIdentities id ((ProductDesk.init Table.empty).run id createTwo).products := by
  refine (product_identity_unique id Table.empty (fun _ h => by cases h) createTwo).2 ?_
    createTwo [] rfl
  refine ⟨fun h => h, fun h => h, ?_, fun h => h, fun h => h, ?_, trivial⟩
  · rintro ⟨request, seen, row, htask, hrow, -⟩
    cases hrow
  · rintro ⟨request, seen, row, htask, hrow, hseen, -⟩
    cases htask
    exact hseen hrow

/-- Two requests for one product are validated before either is saved. -/
def createTwice : List ProductAction :=
  [.post 1 (namedProduct "Milk") false, .post 2 (namedProduct "(Milk)") false, .validate 1,
    .validate 2, .save 1 0, .save 2 0]

/-- Both are saved, and the consolidation has a group to merge. -/
theorem product_created_twice :
    ¬ ∀ (casefold : String → String) (products : Table ProductRow),
      UniqueIdentities casefold products → ∀ actions : List ProductAction,
        UniqueIdentities casefold ((ProductDesk.init products).run casefold actions).products := by
  intro h
  have hunique := h id Table.empty (fun _ h => by cases h) createTwice
  have hrows : ((ProductDesk.init Table.empty).run id createTwice).products.rows =
      [{ pk := 1, columns := (namedProduct "Milk").columns 0 },
        { pk := 2, columns := (namedProduct "(Milk)").columns 0 }] := by
    rfl
  unfold UniqueIdentities Table.UniqueBy at hunique
  rw [hrows] at hunique
  have hpk := hunique _ List.mem_cons_self _ (List.mem_cons_of_mem _ List.mem_cons_self)
    (by decide)
  cases hpk

end ProductIdentity
end RosarioDairy
