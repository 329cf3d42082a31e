import RouteAtlas.Proofs.Collection.RouteViews
import RouteAtlas.Proofs.Mock.Conforming
import RouteAtlas.Proofs.OpenApi.ReferenceClosure

/-!
# Samples of documented operations

The document lists what an endpoint reads from the query by the declared properties, and a sample fills
the query with the fields of a mock value; the same goes for a body that is made of several parameters.
Whatever is drawn, the sample has the documented names in their order, and all the required ones
(`sample_fits_operation`).
-/

namespace RouteAtlas.Collection

open RouteAtlas.Api RouteAtlas.Document RouteAtlas.Mock RouteAtlas.OpenApi RouteAtlas.Routing
open RouteAtlas.Schema

/-! ## Names that are covered -/

/-- The names are some of the fields in order, the required ones among them. -/
structure Covers (fields : List (String × TypeShape)) (names : List String) : Prop where
  sublist : names.Sublist (fieldNames fields)
  required : ∀ name ∈ requiredNames fields, name ∈ names

/-- No names cover no fields. -/
theorem covers_nil : Covers [] [] := ⟨List.Sublist.refl _, nofun⟩

/-- The names of fields cover them. -/
theorem covers_self (fields : List (String × TypeShape)) : Covers fields (fieldNames fields) := by
  refine ⟨List.Sublist.refl _, fun name hname => ?_⟩
  obtain ⟨f, hf, rfl⟩ := List.mem_map.1 hname
  exact List.mem_map_of_mem (List.mem_filter.1 hf).1

/-- Names cover fields part by part. -/
theorem Covers.append {fields fields' : List (String × TypeShape)} {names names' : List String}
    (h : Covers fields names) (h' : Covers fields' names') :
    Covers (fields ++ fields') (names ++ names') := by
  constructor
  · rw [fieldNames, List.map_append]
    exact h.sublist.append h'.sublist
  · intro name hname
    rw [requiredNames, List.filter_append, List.map_append, List.mem_append] at hname
    exact List.mem_append.2 (hname.imp (h.required name) (h'.required name))

/-- Names that cover the fields of each item cover the fields of all of them. -/
theorem covers_flatMap {α β : Type} {f : α → List (String × TypeShape)} {g : β → List String}
    {xs : List α} {ys : List β} (h : List.Forall₂ (fun x y => Covers (f x) (g y)) xs ys) :
    Covers (xs.flatMap f) (ys.flatMap g) := by
  induction h with
  | nil => exact covers_nil
  | cons hxy _ ih => exact hxy.append ih

/-- An object has its properties and nothing else. -/
theorem hasOnePart_object (text : String) (isOptional : Bool) (properties : List (String × TypeShape)) :
    HasOnePart (.object text isOptional properties) := by
  constructor <;> simp [TypeShape.object]

/-- A value of an object's shape covers the properties of the object. -/
theorem exists_fields_of_conforms {t : TypeShape} {properties : List (String × TypeShape)} {v : Value}
    (hone : HasOnePart t) (hp : t.properties = some properties) (h : Conforms t v) :
    ∃ fields, v = .map fields ∧ Covers properties (fieldNames fields) := by
  cases h with
  | array hi => cases (hone.items (by rw [hi]; rfl)).2.symm.trans hp
  | union _ hu => cases (hone.unionTypes (by rw [hu]; rfl)).symm.trans hp
  | leaf _ _ hnone => cases hnone.symm.trans hp
  | object _ _ hp' hsub hrequired =>
    obtain rfl := Option.some.inj (hp.symm.trans hp')
    refine ⟨_, rfl, hsub, fun name hname => ?_⟩
    obtain ⟨p, hp, rfl⟩ := List.mem_map.1 hname
    obtain ⟨hp, hneeded⟩ := List.mem_filter.1 hp
    exact hrequired p hp (by simpa using hneeded)

/-! ## The query -/

/-- What a parameter reads from the query: the properties of an object, or the parameter itself. -/
def queryFields (p : Parameter) : List (String × TypeShape) :=
  if p.source = .query then p.type.properties.getD [(p.name, p.type)] else []

/-- Entries that show a value of the parameter's shape cover what it reads from the query. -/
theorem EntriesFor.covers {p : Parameter} {entries : List QueryEntry} (hone : HasOnePart p.type)
    (h : EntriesFor p (Conforms p.type) entries) : Covers (queryFields p) (entries.map (·.key)) := by
  unfold queryFields
  cases h with
  | nothing hsource =>
    rw [if_neg hsource]
    exact covers_nil
  | fields hsource hp hv hfields hkeys =>
    obtain ⟨properties, hp⟩ := Option.isSome_iff_exists.1 hp
    obtain ⟨fields', rfl, hcovers⟩ := exists_fields_of_conforms hone hp hv
    obtain rfl := Option.some.inj hfields
    rw [if_pos hsource, hp, hkeys]
    exact hcovers
  | itself hsource hp hkeys =>
    rw [if_pos hsource, hp, hkeys]
    exact covers_self [(p.name, p.type)]

/-- What a document says about the query parameters in this list: their names and whether they are
required. -/
def describedQuery (infos : List ParameterInfo) : List (String × Bool) :=
  (infos.filter (·.place = .query)).map fun i => (i.name, i.required)

/-- Lists of parameters are described one after the other. -/
theorem describedQuery_flatten (infos : List (List ParameterInfo)) :
    describedQuery infos.flatten = infos.flatMap describedQuery := by
  induction infos with
  | nil => rfl
  | cons i infos ih =>
    rw [List.flatten_cons, List.flatMap_cons, ← ih, describedQuery, List.filter_append, List.map_append]
    rfl

/-- A query parameter is documented by what it reads from the query. -/
theorem describedQuery_describeParameter (p : Parameter) (r : Registry TypeSchema) :
    describedQuery ((describeParameter p).run r).1 =
      (queryFields p).map fun f => (f.1, !f.2.isOptional) := by
  unfold describeParameter queryFields
  cases hsource : p.source with
  | query =>
    cases p.type.properties with
    | none => rfl
    | some properties =>
      have hentries := forall₂_run_mapM (fun f : String × TypeShape => describeQuery f.1 f.2) properties r
      show describedQuery ((properties.mapM fun f => describeQuery f.1 f.2).run r).1 = _
      generalize ((properties.mapM fun f => describeQuery f.1 f.2).run r).1 = infos at hentries
      rw [if_pos rfl, Option.getD_some]
      induction hentries with
      | nil => rfl
      | @cons f i fields infos hi _ ih =>
        obtain ⟨before, rfl⟩ := hi
        rw [List.map_cons, ← ih]
        rfl
  | path | body | none => rfl

/-- The query parameters of an operation are what the endpoint reads from the query. -/
theorem describedQuery_ofEndpoint (baseUrl tag path : String) (e : Endpoint) (r : Registry TypeSchema) :
    describedQuery ((Operation.ofEndpoint baseUrl tag path e).run r).1.parameters =
      (e.parameters.flatMap queryFields).map fun f => (f.1, !f.2.isOptional) := by
  have hinfos := forall₂_run_mapM describeParameter e.parameters ((describeBody e).run r).2
  show describedQuery ((e.parameters.mapM describeParameter).run ((describeBody e).run r).2).1.flatten = _
  generalize ((e.parameters.mapM describeParameter).run ((describeBody e).run r).2).1 = infos at hinfos
  rw [describedQuery_flatten]
  generalize e.parameters = parameters at hinfos ⊢
  induction hinfos with
  | nil => rfl
  | @cons p i ps infos hi _ ih =>
    obtain ⟨before, rfl⟩ := hi
    rw [List.flatMap_cons, List.flatMap_cons, List.map_append, ← ih, describedQuery_describeParameter]

/-! ## The body -/

/-- The parameters that an embedded body is made of. -/
def bodyFields (e : Endpoint) : List (String × TypeShape) := e.bodyParameters.map fun p => (p.name, p.type)

/-- An embedded body is an object with the body parameters as properties. -/
theorem exists_requestBody_of_embedsBody {e : Endpoint} (h : e.embedsBody = true) :
    ∃ text isOptional, e.requestBody = some (.object text isOptional (bodyFields e)) := by
  unfold Endpoint.requestBody bodyFields
  cases hparameters : e.bodyParameters with
  | nil => simp [Endpoint.embedsBody, hparameters] at h
  | cons p ps =>
    dsimp only
    rw [if_pos h]
    exact ⟨_, _, rfl⟩

/-- The parameters of an endpoint have distinct names and well-formed shapes. -/
structure IsWellFormed (e : Endpoint) : Prop where
  names : (e.parameters.map (·.name)).Nodup
  shapes : ∀ p ∈ e.parameters, HasOnePart p.type ∧ IsOrderly p.type

section Body

variable {e : Endpoint}

/-- A body parameter is a parameter. -/
theorem mem_parameters_of_mem_bodyParameters {p : Parameter} (hp : p ∈ e.bodyParameters) :
    p ∈ e.parameters := (List.mem_filter.1 hp).1

/-- The parts of a body have distinct names. -/
theorem IsWellFormed.nodup_bodyFields (h : IsWellFormed e) : (fieldNames (bodyFields e)).Nodup := by
  have hnames : fieldNames (bodyFields e) = e.bodyParameters.map (·.name) := by
    simp [fieldNames, bodyFields]
  rw [hnames]
  exact h.names.sublist (List.filter_sublist.map _)

/-- What a well-formed endpoint reads from the body can be generated. -/
theorem IsWellFormed.isOrderly_requestBody (h : IsWellFormed e) {t : TypeShape}
    (ht : e.requestBody = some t) : IsOrderly t := by
  by_cases hembeds : e.embedsBody = true
  · obtain ⟨text, isOptional, hbody⟩ := exists_requestBody_of_embedsBody hembeds
    obtain rfl := Option.some.inj (hbody.symm.trans ht)
    refine .object rfl rfl rfl h.nodup_bodyFields fun f hf => ?_
    obtain ⟨p, hp, rfl⟩ := List.mem_map.1 hf
    exact (h.shapes p (mem_parameters_of_mem_bodyParameters hp)).2
  · unfold Endpoint.requestBody at ht
    split at ht
    · cases ht
    · next p ps hparameters =>
      rw [if_neg hembeds] at ht
      obtain rfl := Option.some.inj ht
      have hp : p ∈ e.bodyParameters := hparameters ▸ List.mem_cons_self
      exact (h.shapes p (mem_parameters_of_mem_bodyParameters hp)).2

/-- A sample has a body that covers the body parameters, if they are embedded. -/
theorem fills_sampleBody_covers (h : IsWellFormed e) :
    Fills (MayReadLong e) (SampleRequest.sampleBody e) fun body => e.embedsBody = true →
      ∃ fields, body = some (.map fields) ∧ Covers (bodyFields e) (fieldNames fields) := by
  refine (fills_sampleBody fun t ht => gives_generate_conforms (h.isOrderly_requestBody ht) none).mono id
    fun body hbody hembeds => ?_
  obtain ⟨text, isOptional, hobject⟩ := exists_requestBody_of_embedsBody hembeds
  obtain ⟨v, rfl, hv⟩ := hbody _ hobject rfl
  obtain ⟨fields, rfl, hcovers⟩ := exists_fields_of_conforms (hasOnePart_object _ _ _) rfl hv
  exact ⟨fields, rfl, hcovers⟩

end Body

/-! ## Written requests and operations -/

/-- The text under a name. -/
def textAt? (name : String) (v : Value) : Option String :=
  match v.get? name with
  | some (.str s) => some s
  | _ => none

/-- The value under a name is true. -/
def isTrueAt (name : String) (v : Value) : Bool :=
  match v.get? name with
  | some (.bool b) => b
  | _ => false

/-- The keys of the query of a written request. -/
def queryKeys (request : Value) : List String :=
  ((valueAt? request ["request", "url"]).elim [] (listAt "query")).filterMap (textAt? "key")

/-- The query parameters of a written operation. -/
def queryParameters (operation : Value) : List Value :=
  (listAt "parameters" operation).filter fun p => textAt? "in" p = some "query"

/-- The names of parameters. -/
def writtenNames (parameters : List Value) : List String := parameters.filterMap (textAt? "name")

/-- The schema of the JSON body of a written operation. -/
def bodySchema? (operation : Value) : Option Value :=
  valueAt? operation ["requestBody", "content", jsonContentType, "schema"]

/-- The names of the properties in a written schema. -/
def propertyNames (schema : Value) : List String :=
  match schema.get? "properties" with
  | some (.map fields) => fieldNames fields
  | _ => []

/-- The names that a written schema requires. -/
def requiredProperties (schema : Value) : List String :=
  (listAt "required" schema).filterMap fun v =>
    match v with
    | .str s => some s
    | _ => none

/-- The raw body of the request is a JSON object of some of the properties of the schema in order, the
required ones among them. -/
structure BodyFits (request schema : Value) (fields : List (String × Value)) : Prop where
  raw : valueAt? request ["request", "body", "raw"] = some (.str ((Value.map fields).json bodyJson))
  sublist : (fieldNames fields).Sublist (propertyNames schema)
  required : ∀ name ∈ requiredProperties schema, name ∈ fieldNames fields

/-- The keys of the query are names of query parameters of the operation in order, the required ones among
them, and an embedded body fits its schema. -/
structure Fits (embedsBody : Bool) (request operation : Value) : Prop where
  sublist : (queryKeys request).Sublist (writtenNames (queryParameters operation))
  required : ∀ name ∈ writtenNames ((queryParameters operation).filter (isTrueAt "required")),
    name ∈ queryKeys request
  body : embedsBody = true → ∃ schema fields, bodySchema? operation = some schema ∧
    BodyFits request schema fields

/-- The keys of a written request are those of its query. -/
theorem queryKeys_toValue (request : SampleRequest) (host : String) :
    queryKeys (request.toValue host) = request.query.map (·.key) := by
  have hquery : listAt "query" (request.urlValue host) =
      request.query.map fun q => .map (keyed q.key (.ofCodes q.value)) := by
    simp only [listAt, SampleRequest.urlValue, Value.get?, field?_append]
    cases hentries : request.query <;> cases request.placeholders.isEmpty <;> simp [field?_cons]
  show (listAt "query" (request.urlValue host)).filterMap (textAt? "key") = _
  rw [hquery, List.filterMap_map]
  exact congrFun List.filterMap_eq_map request.query

/-- The query parameters of a written operation are those of the operation. -/
theorem queryParameters_toValue (o : Operation) :
    queryParameters o.toValue = (o.parameters.filter (·.place = .query)).map (·.toValue) := by
  have hlist : listAt "parameters" o.toValue = o.parameters.map (·.toValue) := by
    rw [listAt, get?_parameters_toValue]
    cases o.parameters <;> rfl
  rw [queryParameters, hlist, List.filter_map]
  refine congrArg _ (List.filter_congr fun i _ => ?_)
  show decide (some i.place.name = some "query") = decide (i.place = .query)
  cases i.place <;> rfl

/-- Written parameters have the names of the parameters. -/
theorem writtenNames_toValue (infos : List ParameterInfo) :
    writtenNames (infos.map (·.toValue)) = infos.map (·.name) := by
  rw [writtenNames, List.filterMap_map]
  exact congrFun List.filterMap_eq_map infos

/-- The properties of a written object schema are those of the schema. -/
theorem propertyNames_object (properties : List (String × TypeSchema)) (required : List String) :
    propertyNames (TypeSchema.object properties required).toValue = fieldNames properties := by
  rw [propertyNames, TypeSchema.toValue_object]
  exact fieldNames_schemaFields properties

/-- A written object schema requires what the schema does. -/
theorem requiredProperties_object (properties : List (String × TypeSchema)) (required : List String) :
    requiredProperties (TypeSchema.object properties required).toValue = required := by
  have hlist : listAt "required" (TypeSchema.object properties required).toValue = required.map .str := by
    rw [listAt, TypeSchema.toValue_object]
    cases required <;> rfl
  rw [requiredProperties, hlist, List.filterMap_map]
  exact (congrFun List.filterMap_eq_map required).trans (List.map_id required)

/-- The schema of an embedded body stands in the operation itself. -/
theorem bodySchema?_ofEndpoint (baseUrl tag path : String) {e : Endpoint} (h : e.embedsBody = true)
    (r : Registry TypeSchema) :
    bodySchema? ((Operation.ofEndpoint baseUrl tag path e).run r).1.toValue =
      some (objectSchema r (bodyFields e)).1.toValue := by
  obtain ⟨text, isOptional, hbody⟩ := exists_requestBody_of_embedsBody h
  have hdescribed : ((Operation.ofEndpoint baseUrl tag path e).run r).1.body =
      some ⟨!isOptional, (objectSchema r (bodyFields e)).1⟩ := by
    show ((describeBody e).run r).1 = _
    unfold describeBody
    rw [hbody]
    dsimp only
    rw [if_pos h]
    rfl
  have hrequest := get?_requestBody_toValue ((Operation.ofEndpoint baseUrl tag path e).run r).1
  rw [hdescribed] at hrequest
  unfold bodySchema? valueAt?
  rw [List.foldlM_cons, hrequest]
  rfl

/-- The query parameters of the operation are what the endpoint reads from the query. -/
theorem writtenNames_ofEndpoint (baseUrl tag path : String) (e : Endpoint) (r : Registry TypeSchema) :
    writtenNames (queryParameters ((Operation.ofEndpoint baseUrl tag path e).run r).1.toValue) =
      fieldNames (e.parameters.flatMap queryFields) := by
  have hnames := congrArg (List.map Prod.fst) (describedQuery_ofEndpoint baseUrl tag path e r)
  rw [describedQuery, List.map_map, List.map_map] at hnames
  rw [queryParameters_toValue, writtenNames_toValue]
  exact hnames

/-- The required query parameters of the operation are the mandatory ones that the endpoint reads. -/
theorem writtenNames_required_ofEndpoint (baseUrl tag path : String) (e : Endpoint)
    (r : Registry TypeSchema) :
    writtenNames ((queryParameters ((Operation.ofEndpoint baseUrl tag path e).run r).1.toValue).filter
      (isTrueAt "required")) = requiredNames (e.parameters.flatMap queryFields) := by
  have hnames := congrArg (fun entries => (entries.filter Prod.snd).map Prod.fst)
    (describedQuery_ofEndpoint baseUrl tag path e r)
  rw [describedQuery, List.filter_map, List.filter_map, List.map_map, List.map_map] at hnames
  rw [queryParameters_toValue, List.filter_map, writtenNames_toValue]
  exact hnames

/-! ## Samples of operations -/

/-- A sample covers what the endpoint reads from the query and from an embedded body. -/
theorem fills_ofRoute_covers {route : Route} (h : IsWellFormed route.endpoint) :
    Fills (MayReadLong route.endpoint) (SampleRequest.ofRoute route) fun sample =>
      Covers (route.endpoint.parameters.flatMap queryFields) (sample.query.map (·.key)) ∧
        (route.endpoint.embedsBody = true → ∃ fields, sample.body = some (.map fields) ∧
          Covers (bodyFields route.endpoint) (fieldNames fields)) := by
  have hparameter (p : Parameter) (hp : p ∈ route.endpoint.parameters) :
      Fills (MayReadLong route.endpoint) (SampleRequest.sampleParameter p) fun entries =>
        Covers (queryFields p) (entries.map (·.key)) :=
    (fills_sampleParameter hp fun _ => ⟨(h.shapes p hp).1,
      gives_generate_conforms (h.shapes p hp).2 _⟩).mono id
        fun _ hentries => hentries.covers (h.shapes p hp).1
  unfold SampleRequest.ofRoute
  refine (fills_sampleBody_covers h).bind fun body hbody => ?_
  refine (fills_mapM hparameter).bind fun query hquery => fills_pure ⟨?_, hbody⟩
  rw [List.map_flatten, ← List.flatMap_def]
  exact covers_flatMap hquery

/-- Whatever is drawn, the sample of a well-formed endpoint fits the operation that documents it: the keys
of its query are names of documented query parameters in order, all the required ones among them, and the
names in an embedded body are properties of its schema in order, all the required ones among them. There
is no sample only where the generator gives a value with an integer of too many digits. -/
theorem sample_fits_operation {e : Endpoint} (h : IsWellFormed e) {route : Route}
    (hroute : route.endpoint = e) (baseUrl tag path host : String) (r : Registry TypeSchema)
    (source : Source) :
    (∃ sample after, (SampleRequest.ofRoute route).run.run source = (.ok sample, after) ∧
      Fits e.embedsBody (sample.toValue host)
        ((Operation.ofEndpoint baseUrl tag path e).run r).1.toValue) ∨
    MayReadLong e ∧ ∃ after,
      (SampleRequest.ofRoute route).run.run source = (.error .longInteger, after) := by
  subst hroute
  refine (fills_ofRoute_covers h source).imp_left ?_
  rintro ⟨sample, after, hrun, hquery, hbody⟩
  refine ⟨sample, after, hrun, ?_, ?_, fun hembeds => ?_⟩
  · rw [queryKeys_toValue, writtenNames_ofEndpoint]
    exact hquery.sublist
  · rw [queryKeys_toValue, writtenNames_required_ofEndpoint]
    exact hquery.required
  · obtain ⟨fields, hfields, hcovers⟩ := hbody hembeds
    obtain ⟨properties, hschema, hnames⟩ := exists_objectSchema_eq r h.nodup_bodyFields
    refine ⟨_, fields, bodySchema?_ofEndpoint baseUrl tag path hembeds r, ?_, ?_, ?_⟩
    · unfold SampleRequest.toValue
      rw [hfields]
      rfl
    · rw [hschema, propertyNames_object, hnames]
      exact hcovers.sublist
    · rw [hschema, requiredProperties_object]
      exact hcovers.required

/-- A page of items as it is asked for: one property is required and one may be left out. -/
def pageShape : TypeShape := .object "Page" false [("limit", .leaf "int" false), ("mark", .leaf "str" true)]

/-- A handler that reads a page and a word from the query, and two parameters from the body. -/
def pagedAddition : Endpoint where
  name := "add"
  verb := "POST"
  route := "/items/:shelf"
  parameters := [⟨"page", pageShape, .query, false⟩, ⟨"shelf", .leaf "int" false, .path, false⟩,
    ⟨"word", .leaf "str" false, .query, false⟩, ⟨"item", itemShape, .body, false⟩,
    ⟨"count", .leaf "int" true, .body, false⟩]
  returnType := itemShape

/-- The query is asked for the limit, perhaps a mark, and the word, and the body holds the item and perhaps
a count. -/
theorem sample_fits_operation_of_pagedAddition :
    IsWellFormed pagedAddition ∧ pagedAddition.embedsBody = true ∧
      requiredNames (pagedAddition.parameters.flatMap queryFields) = ["limit", "word"] ∧
      ∃ sample after, (SampleRequest.ofRoute ⟨⟨"shop", "", [], ""⟩, pagedAddition, "/items/:shelf"⟩).run.run {} =
          (.ok sample, after) ∧
        Fits pagedAddition.embedsBody (sample.toValue "host")
          ((Operation.ofEndpoint "" "shop" "/items/:shelf" pagedAddition).run .empty).1.toValue := by
  have hleaf (text : String) (isOptional : Bool) :
      HasOnePart (.leaf text isOptional) ∧ IsOrderly (.leaf text isOptional) := by
    refine ⟨?_, .leaf rfl rfl rfl⟩
    constructor <;> simp [TypeShape.leaf]
  have hobject {text : String} {properties : List (String × TypeShape)}
      (hnodup : (fieldNames properties).Nodup) (hleaves : ∀ p ∈ properties, IsOrderly p.2) :
      HasOnePart (.object text false properties) ∧ IsOrderly (.object text false properties) :=
    ⟨hasOnePart_object _ _ _, .object rfl rfl rfl hnodup hleaves⟩
  have hwell : IsWellFormed pagedAddition := by
    refine ⟨by decide, ?_⟩
    simp only [pagedAddition, List.forall_mem_cons, List.not_mem_nil, false_implies, implies_true, and_true]
    refine ⟨hobject (by decide) ?_, hleaf _ _, hleaf _ _, hobject (by decide) ?_, hleaf _ _⟩
    · simp only [List.forall_mem_cons, List.not_mem_nil, false_implies, implies_true, and_true]
      exact ⟨(hleaf _ _).2, (hleaf _ _).2⟩
    · simp only [List.forall_mem_cons, List.not_mem_nil, false_implies, implies_true, and_true]
      exact (hleaf _ _).2
  have hfilled : ((SampleRequest.ofRoute
      ⟨⟨"shop", "", [], ""⟩, pagedAddition, "/items/:shelf"⟩).run.run {}).1.isOk = true := by
    decide +kernel
  exact ⟨hwell, rfl, rfl, (sample_fits_operation hwell rfl "" "shop" "/items/:shelf" "host" .empty
    {}).resolve_right fun hlong => not_longInteger_of_isOk hfilled hlong.2⟩

end RouteAtlas.Collection
