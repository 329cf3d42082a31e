import RouteAtlas.Proofs.Reflect.Ancestry

/-!
# Inherited fields and the linearization of a class

A class that inherits from several classes finds an attribute by its linearization: the linearizations of
its bases, merged with the list of the bases themselves so that no class comes before one that inherits
from it. Reflection goes by `overrideOrder` instead, where the last base counts first. The two agree on a
field that no class of the ancestry inherits differently along two of its bases
(`Linearizes.declarationIn_eq`), and differ, say, where one of two bases declares a field again that both
inherit.
-/

namespace RouteAtlas.Reflect

open RouteAtlas.Api RouteAtlas.Document RouteAtlas.Syntax Relation

/-! ## Merging -/

section Merges

variable {α : Type}

/-- The head that is taken next: that of the first list whose head stands in no tail. -/
def IsNextHead (lists : List (List α)) (head : α) : Prop :=
  ∃ before tail after, lists = before ++ (head :: tail) :: after ∧ (∀ l ∈ lists, head ∉ l.tail) ∧
    ∀ l ∈ before, ∀ x ∈ l.head?, ∃ other ∈ lists, x ∈ other.tail

/-- What is left of a list when a head is taken from all lists that begin with it. -/
inductive DropsHead (head : α) : List α → List α → Prop
  | drop (tail : List α) : DropsHead head (head :: tail) tail
  | keep {l : List α} (h : l.head? ≠ some head) : DropsHead head l l

/-- The lists are merged into one, head by head. -/
inductive Merges : List (List α) → List α → Prop
  | done {lists : List (List α)} (h : ∀ l ∈ lists, l = []) : Merges lists []
  | next {lists rests : List (List α)} {head : α} {merged : List α} (hhead : IsNextHead lists head)
      (hrests : List.Forall₂ (DropsHead head) lists rests) (h : Merges rests merged) :
      Merges lists (head :: merged)

variable {β : Type} {g : α → Option β} {lists : List (List α)} {merged : List α}

/-- A merged list holds nothing but what the lists hold. -/
theorem Merges.exists_mem (h : Merges lists merged) {a : α} (ha : a ∈ merged) : ∃ l ∈ lists, a ∈ l := by
  induction h with
  | done => cases ha
  | @next lists rests head merged hhead hrests _ ih =>
    rcases List.mem_cons.1 ha with rfl | ha
    · obtain ⟨before, tail, after, rfl, _⟩ := hhead
      exact ⟨a :: tail, by simp, List.mem_cons_self⟩
    · obtain ⟨rest, hrest, ha⟩ := ih ha
      obtain ⟨l, hl, hdrops⟩ := exists_of_mem_right hrests hrest
      refine ⟨l, hl, ?_⟩
      cases hdrops with
      | drop => exact List.mem_cons_of_mem head ha
      | keep => exact ha

/-- Taking a head at which nothing is found changes no search. -/
theorem DropsHead.findSome?_eq {head : α} {l rest : List α} (h : DropsHead head l rest)
    (hg : g head = none) : rest.findSome? g = l.findSome? g := by
  cases h with
  | drop => rw [List.findSome?_cons, hg]
  | keep => rfl

/-- What a search finds in the merged list it finds in one of the lists. -/
theorem Merges.exists_of_findSome? (h : Merges lists merged) {d : β}
    (hd : merged.findSome? g = some d) : ∃ l ∈ lists, l.findSome? g = some d := by
  induction h with
  | done => cases hd
  | @next lists rests head merged hhead hrests _ ih =>
    cases hg : g head with
    | some d' =>
      obtain ⟨before, tail, after, rfl, _⟩ := hhead
      rw [List.findSome?_cons, hg] at hd
      refine ⟨head :: tail, by simp, ?_⟩
      rw [List.findSome?_cons, hg]
      exact hd
    | none =>
      rw [List.findSome?_cons, hg] at hd
      obtain ⟨rest, hrest, hfound⟩ := ih hd
      obtain ⟨l, hl, hdrops⟩ := exists_of_mem_right hrests hrest
      exact ⟨l, hl, by rw [← hdrops.findSome?_eq hg, hfound]⟩

/-- A search that finds something in one of the lists finds something in the merged list. -/
theorem Merges.isSome_of_findSome? (h : Merges lists merged) {l : List α} (hl : l ∈ lists)
    (hsome : (l.findSome? g).isSome) : (merged.findSome? g).isSome := by
  induction h generalizing l with
  | done hempty =>
    rw [hempty l hl] at hsome
    cases hsome
  | @next lists rests head merged _ hrests _ ih =>
    rw [List.findSome?_cons]
    cases hg : g head with
    | some d => rfl
    | none =>
      obtain ⟨rest, hrest, hdrops⟩ := exists_of_mem_right hrests.flip hl
      exact ih hrest (by rw [hdrops.findSome?_eq hg]; exact hsome)

end Merges

/-! ## Linearizations -/

/-- The order in which an attribute of a class is looked for: the class itself, then the merged orders of
its bases and the list of the bases. -/
inductive Linearizes (index : ClassIndex) : ClassDecl → List ClassDecl → Prop
  | intro {c : ClassDecl} {orders : ClassDecl → List ClassDecl} {merged : List ClassDecl}
      (horders : ∀ b ∈ index.baseClasses c, Linearizes index b (orders b))
      (hmerged : Merges ((index.baseClasses c).map orders ++ [index.baseClasses c]) merged) :
      Linearizes index c (c :: merged)

/-- No class of the ancestry inherits from itself. -/
def ClassIndex.IsAcyclicAbove (index : ClassIndex) (c : ClassDecl) : Prop :=
  ∀ owner, index.Ancestry c owner → ¬ TransGen (fun c b => b ∈ index.baseClasses c) owner owner

/-- Whatever bases of one class of the ancestry have the field, they have it by the same declaration,
unless the class declares it itself. -/
def InheritedAlike (index : ClassIndex) (c : ClassDecl) (name : String) : Prop :=
  ∀ owner, index.Ancestry c owner → owner.declaration? name = none →
    ∀ b ∈ index.baseClasses owner, ∀ b' ∈ index.baseClasses owner, ∀ order order' d d',
      Linearizes index b order → Linearizes index b' order' → declarationIn order name = some d →
        declarationIn order' name = some d' → d = d'

section Linearizes

variable {index : ClassIndex} {c : ClassDecl} {order : List ClassDecl} {name : String}

/-- A class with a linearization has no cycle above it. -/
theorem Linearizes.isAcyclicAbove (h : Linearizes index c order) : index.IsAcyclicAbove c := by
  induction h with
  | @intro c _ _ _ _ ih =>
    intro owner howner hcycle
    rcases howner.cases_head with rfl | ⟨b, hb, hrest⟩
    · -- a cycle through the class is one through the base that it takes first
      obtain ⟨b, hb, hback⟩ := TransGen.head'_iff.1 hcycle
      exact ih b hb b .refl (.tail' hback hb)
    · exact ih b hb owner hrest hcycle

/-- An ancestor is known by its name. -/
theorem get?_of_inherits {a : ClassDecl}
    (h : TransGen (fun c b => b ∈ index.baseClasses c) c a) : index.get? a.name = some a := by
  obtain ⟨_, _, ha⟩ := TransGen.tail'_iff.1 h
  exact get?_of_mem_baseClasses ha

/-- A linearization begins with its class. -/
theorem Linearizes.declarationIn_of_own (h : Linearizes index c order) {d : FieldDecl}
    (hd : c.declaration? name = some d) : declarationIn order name = some d := by
  cases h with
  | intro => rw [declarationIn_cons, hd, Option.some_or]

/-- What is found in the merged orders of the bases is found in the order of one of them. -/
theorem exists_base_of_declarationIn {orders : ClassDecl → List ClassDecl} {merged : List ClassDecl}
    (horders : ∀ b ∈ index.baseClasses c, Linearizes index b (orders b))
    (hmerged : Merges ((index.baseClasses c).map orders ++ [index.baseClasses c]) merged)
    {d : FieldDecl} (hd : declarationIn merged name = some d) :
    ∃ b ∈ index.baseClasses c, declarationIn (orders b) name = some d := by
  obtain ⟨l, hl, hfound⟩ := hmerged.exists_of_findSome? hd
  rcases List.mem_append.1 hl with hl | hl
  · obtain ⟨b, hb, rfl⟩ := List.mem_map.1 hl
    exact ⟨b, hb, hfound⟩
  · obtain rfl := List.mem_singleton.1 hl
    obtain ⟨b, hb, hown⟩ := List.exists_of_findSome?_eq_some hfound
    exact ⟨b, hb, (horders b hb).declarationIn_of_own hown⟩

/-- What is found in the parts of classes one behind the other is found in one of them. -/
theorem exists_of_declarationIn_flatMap {bases : List ClassDecl} {part : ClassDecl → List ClassDecl}
    {d : FieldDecl} (hd : declarationIn (bases.flatMap part) name = some d) :
    ∃ b ∈ bases, declarationIn (part b) name = some d := by
  induction bases with
  | nil => cases hd
  | cons b bases ih =>
    rw [List.flatMap_cons, declarationIn_append, Option.or_eq_some_iff] at hd
    rcases hd with hd | ⟨_, hd⟩
    · exact ⟨b, List.mem_cons_self, hd⟩
    · obtain ⟨b', hb', hd⟩ := ih hd
      exact ⟨b', List.mem_cons_of_mem b hb', hd⟩

/-- A search that finds one thing only, and finds something if that is there. -/
theorem eq_some_iff_of_unique {α : Type} {x : Option α} {R : α → Prop} {a : α}
    (hunique : ∀ a b, R a → R b → a = b) (hfound : ∀ a, x = some a → R a)
    (hsome : ∀ a, R a → x.isSome) : x = some a ↔ R a := by
  refine ⟨hfound a, fun ha => ?_⟩
  obtain ⟨b, hb⟩ := Option.isSome_iff_exists.1 (hsome a ha)
  rw [hb, hunique a b ha (hfound b hb)]

/-- One of the bases has the field by this declaration, in its own order. -/
def DeclaredAbove (index : ClassIndex) (c : ClassDecl) (orders : ClassDecl → List ClassDecl)
    (name : String) (d : FieldDecl) : Prop :=
  ∃ b ∈ index.baseClasses c, declarationIn (orders b) name = some d

section Above

variable {orders : ClassDecl → List ClassDecl} {d : FieldDecl}

/-- Where there is at most one declaration above the class, its linearization finds it. -/
theorem declarationIn_merged_iff {merged : List ClassDecl}
    (hunique : ∀ d d', DeclaredAbove index c orders name d → DeclaredAbove index c orders name d' → d = d')
    (horders : ∀ b ∈ index.baseClasses c, Linearizes index b (orders b))
    (hmerged : Merges ((index.baseClasses c).map orders ++ [index.baseClasses c]) merged) :
    declarationIn merged name = some d ↔ DeclaredAbove index c orders name d := by
  refine eq_some_iff_of_unique hunique
    (fun _ => exists_base_of_declarationIn horders hmerged) fun d' ⟨b, hb, hd'⟩ => ?_
  have hl : orders b ∈ (index.baseClasses c).map orders ++ [index.baseClasses c] :=
    List.mem_append_left _ (List.mem_map.2 ⟨b, hb, rfl⟩)
  exact hmerged.isSome_of_findSome? hl (Option.isSome_of_eq_some hd')

/-- Where there is at most one declaration above the class, the walk through its bases finds it. -/
theorem declarationIn_below_iff {lineage : List String}
    (hunique : ∀ d d', DeclaredAbove index c orders name d → DeclaredAbove index c orders name d' → d = d')
    (hbase : ∀ b ∈ index.baseClasses c,
      declarationIn (orderBelow index lineage b) name = declarationIn (orders b) name) :
    declarationIn ((index.baseClasses c).reverse.flatMap (orderBelow index lineage)) name = some d ↔
      DeclaredAbove index c orders name d := by
  refine eq_some_iff_of_unique hunique (fun d' hd' => ?_) fun d' ⟨b, hb, hd'⟩ => ?_
  · obtain ⟨b, hb, hd'⟩ := exists_of_declarationIn_flatMap hd'
    have hb := List.mem_reverse.1 hb
    exact ⟨b, hb, by rw [← hbase b hb, hd']⟩
  · have hpart := Option.isSome_of_eq_some ((hbase b hb).trans hd')
    obtain ⟨owner, howner, hannotates⟩ := isSome_declarationIn_iff.1 hpart
    refine isSome_declarationIn_iff.2 ⟨owner, ?_, hannotates⟩
    exact List.mem_flatMap.2 ⟨b, List.mem_reverse.2 hb, howner⟩

end Above

/-- The first class that declares the field is the same in the linearization and in the order in which
declarations override each other. `lineage` is free of whatever the class inherits from. -/
theorem Linearizes.declarationIn_eq (h : Linearizes index c order)
    (halike : InheritedAlike index c name) {lineage : List String}
    (hfree : ∀ b, TransGen (fun c b => b ∈ index.baseClasses c) c b → b.name ∉ lineage) :
    declarationIn order name = declarationIn (overrideOrder index lineage c) name := by
  induction h generalizing lineage with
  | @intro c orders merged horders hmerged ih =>
    rw [overrideOrder_eq, declarationIn_cons, declarationIn_cons]
    cases hown : c.declaration? name with
    | some d => rfl
    | none =>
      have hacyclic := (Linearizes.intro horders hmerged).isAcyclicAbove
      -- the walk is cut nowhere, so each base contributes its own order
      have hbase (b : ClassDecl) (hb : b ∈ index.baseClasses c) :
          declarationIn (orderBelow index lineage b) name = declarationIn (orders b) name := by
        unfold orderBelow
        rw [if_neg (hfree b (.single hb))]
        refine (ih b hb (fun owner howner => halike owner (.head hb howner)) fun a ha hmem => ?_).symm
        rcases List.mem_cons.1 hmem with hname | hmem
        · obtain rfl := eq_of_get?_name (get?_of_inherits ha) (get?_of_mem_baseClasses hb) hname
          exact hacyclic a (.single hb) ha
        · exact hfree a (.head hb ha) hmem
      have hunique (d d' : FieldDecl) :
          DeclaredAbove index c orders name d → DeclaredAbove index c orders name d' → d = d' := by
        rintro ⟨b, hb, hd⟩ ⟨b', hb', hd'⟩
        exact halike c .refl hown b hb b' hb' _ _ d d' (horders b hb) (horders b' hb') hd hd'
      refine Option.ext fun d => ?_
      exact (declarationIn_merged_iff hunique horders hmerged).trans
        (declarationIn_below_iff hunique hbase).symm

/-- A linearization holds classes of the ancestry. -/
theorem Linearizes.ancestry_of_mem (h : Linearizes index c order) {owner : ClassDecl}
    (howner : owner ∈ order) : index.Ancestry c owner := by
  induction h with
  | intro _ hmerged ih =>
    rcases List.mem_cons.1 howner with rfl | howner
    · exact .refl
    obtain ⟨l, hl, howner⟩ := hmerged.exists_mem howner
    rcases List.mem_append.1 hl with hl | hl
    · obtain ⟨b, hb, rfl⟩ := List.mem_map.1 hl
      exact .head hb (ih b hb howner)
    · rw [List.mem_singleton.1 hl] at howner
      exact .single howner

/-- A field of which the ancestry has one declaration is inherited alike along all bases. -/
theorem inheritedAlike_of_unique {d : FieldDecl}
    (h : ∀ owner other, index.Ancestry c owner → owner.declaration? name = some other → other = d) :
    InheritedAlike index c name := by
  intro owner howner _ b hb b' hb' order order' first second horder horder' hd hd'
  have hdeclared {b : ClassDecl} {order : List ClassDecl} {found : FieldDecl}
      (hb : b ∈ index.baseClasses owner) (horder : Linearizes index b order)
      (hd : declarationIn order name = some found) : found = d := by
    obtain ⟨a, ha, hown⟩ := List.exists_of_findSome?_eq_some hd
    exact h a found (howner.trans (.head hb (horder.ancestry_of_mem ha))) hown
  rw [hdeclared hb horder hd, hdeclared hb' horder' hd']

end Linearizes

/-! ## The fields of a class with a linearization -/

/-- What the first of these classes that declares the name says of it. -/
def saidBy (index : ClassIndex) (active : List String) (order : List ClassDecl) (name : String) :
    Option (Except ReflectFault TypeShape) :=
  (declarationIn order name).map fun d => reflect index active d.isOptional d.hint

section Fields

variable {index : ClassIndex} {active lineage : List String} {c : ClassDecl} {order : List ClassDecl}
variable {fields : List (String × TypeShape)} {field : String} {t : TypeShape}

/-- A field holds what the first class that declares it says. -/
theorem DeclaredBy.saidBy_eq (h : DeclaredBy index active order fields)
    (hfield : field? field fields = some t) : saidBy index active order field = some (.ok t) := by
  obtain ⟨d, hd, hgives⟩ := exists_of_some_rel (hfield ▸ h field)
  unfold saidBy
  rw [hd]
  exact congrArg some hgives

/-- A class with a linearization does not meet its own name above it. -/
theorem Linearizes.name_not_mem (h : Linearizes index c order) (hc : index.get? c.name = some c)
    {b : ClassDecl} (hb : TransGen (fun c b => b ∈ index.baseClasses c) c b) : b.name ∉ [c.name] := by
  intro hname
  obtain rfl := eq_of_get?_name (get?_of_inherits hb) hc (List.mem_singleton.1 hname)
  exact h.isAcyclicAbove b .refl hb

end Fields

/-- Each field of a class that is reflected by itself holds what the first class that declares it says, in
the order in which declarations override each other. That is what the linearization says wherever the
field is inherited alike along all bases. -/
theorem reflectHint_overriding {index : ClassIndex} {c : ClassDecl} {e : Expr} {name : String}
    {isOptional : Bool} {root : TypeShape} {order : List ClassDecl}
    (hf : TypeForm.ofExpr e = .named name) (hc : index.get? name = some c) (henum : c.isEnum = false)
    (hlinear : Linearizes index c order) (h : reflectHint index isOptional (some e) = .ok root) :
    ∃ fields, root = .object c.name isOptional fields ∧ ∀ field t, (field, t) ∈ fields →
      saidBy index [c.name] (overrideOrder index [c.name] c) field = some (.ok t) ∧
        (InheritedAlike index c field → saidBy index [c.name] order field = some (.ok t)) := by
  obtain ⟨fields, hroot, hfields⟩ := exists_fields_of_reflectHint hf hc henum h
  have hself : index.get? c.name = some c := by rw [ClassIndex.name_of_get? hc, hc]
  refine ⟨fields, hroot, fun field t hmem => ?_⟩
  have hfield := field?_eq_some_of_mem (nodup_fieldNames_classFields hfields) hmem
  have hsaid := (classFields_declared hfields).saidBy_eq hfield
  refine ⟨hsaid, fun halike => ?_⟩
  unfold saidBy at hsaid ⊢
  rw [hlinear.declarationIn_eq halike fun _ => hlinear.name_not_mem hself]
  exact hsaid

/-! ## Two bases with one base of their own -/

section Diamond

/-- A statement that declares the field `key`. -/
def keyField (type : String) : Stmt := .annAssign (.name "key") (.name type) none

/-- The class that both bases inherit from. -/
def topClass : ClassDecl := ⟨"Top", [], [], [keyField "int"]⟩

/-- The first base. -/
def leftClass (body : List Stmt) : ClassDecl := ⟨"Left", [.name "Top"], [], body⟩

/-- The second base. -/
def rightClass : ClassDecl := ⟨"Right", [.name "Top"], [], []⟩

/-- The class with the two bases. -/
def jointClass : ClassDecl := ⟨"Joint", [.name "Left", .name "Right"], [], []⟩

/-- The four classes, the first base with this body. -/
def diamond (body : List Stmt) : ClassIndex := ⟨[topClass, leftClass body, rightClass, jointClass]⟩

/-- The top of the diamond comes alone. -/
theorem linearizes_top (body : List Stmt) : Linearizes (diamond body) topClass [topClass] := by
  have hbases : (diamond body).baseClasses topClass = [] := rfl
  refine @Linearizes.intro _ _ (fun _ => []) _ ?_ ?_ <;> rw [hbases]
  · exact fun b hb => absurd hb List.not_mem_nil
  · exact .done (by simp)

/-- A class with the one base `Top`. -/
theorem linearizes_side {body : List Stmt} {c : ClassDecl}
    (hbases : (diamond body).baseClasses c = [topClass]) :
    Linearizes (diamond body) c [c, topClass] := by
  refine @Linearizes.intro _ _ (fun _ => [topClass]) _ ?_ ?_ <;> rw [hbases]
  · intro b hb
    rw [List.mem_singleton.1 hb]
    exact linearizes_top body
  · have hmerged : Merges [[topClass], [topClass]] [topClass] := by
      refine .next ⟨[], [], [[topClass]], rfl, ?_, ?_⟩ (.cons (.drop _) (.cons (.drop _) .nil))
        (.done ?_) <;> simp
    exact hmerged

/-- The diamond is linearized from the left, its top last. -/
theorem linearizes_diamond (body : List Stmt) :
    Linearizes (diamond body) jointClass [jointClass, leftClass body, rightClass, topClass] := by
  have hnames {a b : ClassDecl} (h : a.name ≠ b.name) : a ≠ b := fun he => h (congrArg _ he)
  have hleftTop : leftClass body ≠ topClass := hnames (by simp [leftClass, topClass])
  have hleftRight : leftClass body ≠ rightClass := hnames (by simp [leftClass, rightClass])
  have hrightTop : rightClass ≠ topClass := hnames (by simp [rightClass, topClass])
  have hbases : (diamond body).baseClasses jointClass = [leftClass body, rightClass] := rfl
  refine @Linearizes.intro _ _ (fun b => [b, topClass]) _ ?_ ?_ <;> rw [hbases]
  · intro b hb
    rcases List.mem_pair.1 hb with rfl | rfl <;> exact linearizes_side rfl
  have hlast : Merges [[topClass], [topClass], []] [topClass] := by
    refine .next ⟨[], [], [[topClass], []], rfl, ?_, ?_⟩
      (.cons (.drop _) (.cons (.drop _) (.cons (.keep ?_) .nil))) (.done ?_) <;> simp
  -- `Top` heads the first list, but it stands behind `Right` in the second one
  have hright : Merges [[topClass], [rightClass, topClass], [rightClass]] [rightClass, topClass] := by
    refine .next ⟨[[topClass]], [topClass], [[rightClass]], rfl, ?_, ?_⟩
      (.cons (.keep ?_) (.cons (.drop _) (.cons (.drop _) .nil))) hlast
    · simp [hrightTop]
    · simp
    · simpa using hrightTop.symm
  have hmerged : Merges
      [[leftClass body, topClass], [rightClass, topClass], [leftClass body, rightClass]]
      [leftClass body, rightClass, topClass] := by
    refine .next ⟨[], [topClass], [[rightClass, topClass], [leftClass body, rightClass]], rfl, ?_, ?_⟩
      (.cons (.drop _) (.cons (.keep ?_) (.cons (.drop _) .nil))) hright
    · simp [hleftTop, hleftRight]
    · simp
    · simpa using hleftRight.symm
  exact hmerged

section Reflected

variable (body : List Stmt)

/-- A name that the diamond does not know is a leaf. -/
theorem reflect_builtin {type : String} (h : (diamond body).get? type = none) :
    reflect (diamond body) ["Joint"] false (.name type) = .ok (.leaf type false) :=
  reflect_unknown rfl h

/-- The top of the diamond has its field. -/
theorem classFields_top (lineage : List String) :
    classFields (diamond body) ["Joint"] lineage topClass = .ok [("key", .leaf "int" false)] :=
  classFields_of_ok rfl (foldlM_cons_of_ok (declareField_of_ok (reflect_builtin body rfl) []) [])

/-- The one base `Top` gives its field. -/
theorem inheritFields_top {lineage : List String} (h : "Top" ∉ lineage) :
    [Expr.name "Top"].foldlM (inheritFields (diamond body) ["Joint"] lineage) [] =
      .ok [("key", .leaf "int" false)] :=
  foldlM_cons_of_ok (inheritFields_base (b := topClass) rfl h rfl (classFields_top body _) []) []

/-- Whatever the first base makes of the field, the second one brings that of `Top` back. -/
theorem reflectHint_diamond {t : TypeShape}
    (hleft : classFields (diamond body) ["Joint"] ["Left", "Joint"] (leftClass body) =
      .ok [("key", t)]) :
    reflectHint (diamond body) false (some (.name "Joint")) =
      .ok (.object "Joint" false [("key", .leaf "int" false)]) := by
  have hright : classFields (diamond body) ["Joint"] ["Right", "Joint"] rightClass =
      .ok [("key", .leaf "int" false)] := classFields_of_ok (inheritFields_top body (by decide)) rfl
  have hnew : (leftClass body).name ∉ ["Joint"] := by simp [leftClass]
  have hfields : classFields (diamond body) ["Joint"] ["Joint"] jointClass =
      .ok [("key", .leaf "int" false)] := by
    have hbases : jointClass.bases = [.name "Left", .name "Right"] := rfl
    refine classFields_of_ok ?_ rfl
    rw [hbases, foldlM_cons_of_ok (inheritFields_base (b := leftClass body) rfl hnew rfl hleft [])]
    exact foldlM_cons_of_ok (inheritFields_base (b := rightClass) rfl (by decide) rfl hright _) []
  show reflect (diamond body) [] false (.name "Joint") = _
  rw [reflect_class (c := jointClass) rfl rfl rfl List.not_mem_nil]
  exact congrArg (fun x => x >>= fun fields => .ok (TypeShape.object "Joint" false fields)) hfields

end Reflected

/-- Every class above `Joint` is one of the other three. -/
theorem mem_diamond_of_ancestry {body : List Stmt} {owner : ClassDecl}
    (h : (diamond body).Ancestry jointClass owner) : owner ∈ (diamond body).classes := by
  rcases h.cases_tail with rfl | ⟨_, _, howner⟩
  · simp [diamond]
  · exact ClassIndex.mem_of_get? (get?_of_mem_baseClasses howner)

/-- A field that both bases inherit and neither declares again is that of the linearization. -/
theorem reflectHint_overriding_of_diamond :
    reflectHint (diamond []) false (some (.name "Joint")) =
        .ok (.object "Joint" false [("key", .leaf "int" false)]) ∧
      saidBy (diamond []) ["Joint"] [jointClass, leftClass [], rightClass, topClass] "key" =
        some (.ok (.leaf "int" false)) := by
  have hroot : reflectHint (diamond []) false (some (.name "Joint")) =
      .ok (.object "Joint" false [("key", .leaf "int" false)]) :=
    reflectHint_diamond [] (classFields_of_ok (inheritFields_top [] (by decide)) rfl)
  have halike : InheritedAlike (diamond []) jointClass "key" := by
    refine inheritedAlike_of_unique (d := ⟨"key", .name "int", false⟩) fun owner d howner hd => ?_
    have hmem := mem_diamond_of_ancestry howner
    simp only [diamond, List.mem_cons, List.not_mem_nil, or_false] at hmem
    rcases hmem with rfl | rfl | rfl | rfl
    · exact (Option.some.inj hd).symm
    all_goals cases hd
  obtain ⟨fields, hfields, hsaid⟩ := reflectHint_overriding (c := jointClass) rfl rfl rfl
    (linearizes_diamond []) hroot
  obtain rfl : [("key", TypeShape.leaf "int" false)] = fields :=
    Option.some.inj (congrArg TypeShape.properties hfields)
  exact ⟨hroot, (hsaid "key" _ List.mem_cons_self).2 halike⟩

/-- A field that the first of two bases declares again is that of the linearization no more. -/
theorem not_forall_said_by_linearization :
    ¬ ∀ (index : ClassIndex) (c : ClassDecl) (order : List ClassDecl) (isOptional : Bool)
        (fields : List (String × TypeShape)),
      index.get? c.name = some c → c.isEnum = false → index.IsAcyclicAbove c →
        Linearizes index c order →
          reflectHint index isOptional (some (.name c.name)) = .ok (.object c.name isOptional fields) →
            ∀ field t, (field, t) ∈ fields →
              saidBy index [c.name] order field = some (.ok t) := by
  intro h
  have hleft : classFields (diamond [keyField "str"]) ["Joint"] ["Left", "Joint"]
      (leftClass [keyField "str"]) = .ok [("key", .leaf "str" false)] :=
    classFields_of_ok (inheritFields_top _ (by decide))
      (foldlM_cons_of_ok (declareField_of_ok (reflect_builtin _ rfl) _) [])
  have hlinear := linearizes_diamond [keyField "str"]
  have hsaid := h _ jointClass _ false _ rfl rfl hlinear.isAcyclicAbove hlinear
    (reflectHint_diamond _ hleft) "key" _ List.mem_cons_self
  have hstr : saidBy (diamond [keyField "str"]) ["Joint"]
      [jointClass, leftClass [keyField "str"], rightClass, topClass] "key" =
        some (reflect (diamond [keyField "str"]) ["Joint"] false (.name "str")) := rfl
  have hclash := hsaid.symm.trans hstr
  rw [reflect_builtin _ rfl] at hclash
  have htext : "int" = "str" := congrArg TypeShape.text (Except.ok.inj (Option.some.inj hclash))
  exact absurd htext (by decide)

end Diamond

end RouteAtlas.Reflect
