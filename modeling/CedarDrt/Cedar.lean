import CedarDrt.Arbitrary

/-!
# The Cedar values the harness handles

The fuzz inputs hold values of `cedar_policy_core`, `cedar_policy_validator` and
`cedar_policy_generators`.  None of those crates is part of this repository, and
the harness reads only a little of each value: a policy's identifier and whether
its scope has slots, an entity's uid, a request's principal and resource, the
sizes of a schema's declarations.  Each type here keeps exactly what the harness
reads; everything else it hands on to the oracles untouched, and the oracles are
parameters of which nothing is assumed.

The generators are collected in `Generators`: a draw from the byte stream for
each generator the fuzz inputs call.  The few library methods whose behaviour the
harness relies on — the identifier a generated policy keeps, how a policy set
refuses a taken identifier — are given their own definitions.

## Main definitions

* `PolicyID`, `EntityUID`, `Entity`, `Entities`, `Hierarchy`, `Request` — the values.
* `GeneratedPolicy`, `GeneratedLinkedPolicy` — generated policies and links.
* `PolicySet` — `ast::PolicySet`, with `addStatic`, `addTemplate` and `link`.
* `ABACSettings`, `Schema`, `HierarchyGenerator` — the generators' inputs.
* `Generators` — the external generators, as draws; `Generators.sample`, one instance.
* `Features`, `TycheTest` — the observation record.
-/

namespace CedarDrt

/-! ### Identifiers, entities and requests -/

/-- `ast::PolicyID`. -/
structure PolicyID where
  id : String
  deriving DecidableEq, Repr

/-- `PolicyID::from_string`. -/
def PolicyID.fromString (s : String) : PolicyID := ⟨s⟩

/-- `ast::EntityUID`: an entity type and an entity id. -/
structure EntityUID where
  ty : String
  eid : String
  deriving DecidableEq, Repr

/-- `ast::Entity`, kept to its uid and its ancestors. -/
structure Entity where
  uid : EntityUID
  ancestors : List EntityUID
  deriving DecidableEq, Repr

/-- `entities::Entities`, the entity store the oracles are given. -/
structure Entities where
  entities : List Entity
  deriving DecidableEq, Repr

/-- The uids of the entities of a store. -/
def Entities.uids (es : Entities) : List EntityUID := es.entities.map Entity.uid

/-- The generators' `Hierarchy`: the generated entities. -/
structure Hierarchy where
  entities : List Entity
  deriving DecidableEq, Repr

/-- The uids a hierarchy contains. -/
def Hierarchy.uids (h : Hierarchy) : List EntityUID := h.entities.map Entity.uid

/-- A request as `ABACRequest` and `RBACRequest` hold it and `ast::Request::from`
converts it, kept to its principal, action and resource. -/
structure Request where
  principal : EntityUID
  action : EntityUID
  resource : EntityUID
  deriving DecidableEq, Repr

/-! ### Policies and policy sets -/

/-- `ast::SlotId`: the two slots a template's scope can hold. -/
inductive SlotId where
  | principal
  | resource
  deriving DecidableEq, Repr

/-- The generators' `GeneratedPolicy` (what `ABACPolicy` and `RBACPolicy` wrap),
kept to its identifier and the slots of its scope. -/
structure GeneratedPolicy where
  id : PolicyID
  slots : List SlotId
  deriving DecidableEq, Repr

/-- `GeneratedPolicy::has_slots`. -/
def GeneratedPolicy.hasSlots (p : GeneratedPolicy) : Bool := !p.slots.isEmpty

/-- The generators' `GeneratedLinkedPolicy`: the link's identifier, its
template's, and the uid bound to each slot. -/
structure GeneratedLinkedPolicy where
  id : PolicyID
  templateId : PolicyID
  bindings : List (SlotId × EntityUID)
  deriving DecidableEq, Repr

/-- What one identifier of an `ast::PolicySet` stands for. -/
inductive PolicySetEntry where
  | static (p : GeneratedPolicy)
  | template (p : GeneratedPolicy)
  | link (l : GeneratedLinkedPolicy)
  deriving DecidableEq, Repr

/-- The identifier of an entry. -/
def PolicySetEntry.id : PolicySetEntry → PolicyID
  | .static p => p.id
  | .template p => p.id
  | .link l => l.id

@[simp] theorem PolicySetEntry.id_static (p : GeneratedPolicy) :
    (PolicySetEntry.static p).id = p.id :=
  rfl

@[simp] theorem PolicySetEntry.id_template (p : GeneratedPolicy) :
    (PolicySetEntry.template p).id = p.id := rfl

@[simp] theorem PolicySetEntry.id_link (l : GeneratedLinkedPolicy) :
    (PolicySetEntry.link l).id = l.id :=
  rfl

/-- `ast::PolicySet`: its entries, in the order they were added. -/
structure PolicySet where
  entries : List PolicySetEntry
  deriving DecidableEq, Repr

/-- `ast::PolicySet::new`. -/
def PolicySet.new : PolicySet := ⟨[]⟩

/-- The identifiers a policy set holds; static policies, templates and links share
one namespace. -/
def PolicySet.ids (ps : PolicySet) : List PolicyID := ps.entries.map PolicySetEntry.id

/-- Why a policy set refuses a policy. -/
inductive PolicySetError where
  /-- The identifier is already taken. -/
  | occupied (id : PolicyID)
  /-- A link names a template the set does not hold. -/
  | noSuchTemplate (id : PolicyID)
  /-- A link leaves a slot of its template unbound, or binds a slot it does not have. -/
  | arity (id : PolicyID)
  deriving DecidableEq, Repr

/-- Add an entry under a fresh identifier. -/
def PolicySet.insert (ps : PolicySet) (e : PolicySetEntry) : Except PolicySetError PolicySet :=
  if e.id ∈ ps.ids then .error (.occupied e.id) else .ok ⟨ps.entries ++ [e]⟩

/-- `PolicySet::add_static`. -/
def PolicySet.addStatic (ps : PolicySet) (p : GeneratedPolicy) : Except PolicySetError PolicySet :=
  ps.insert (.static p)

/-- `PolicySet::add_template`. -/
def PolicySet.addTemplate (ps : PolicySet) (p : GeneratedPolicy) :
    Except PolicySetError PolicySet :=
  ps.insert (.template p)

/-- `PolicySet::get_template`: the template of this identifier.  A static policy is kept
as a template without slots, so it is found too. -/
def PolicySet.getTemplate (ps : PolicySet) (id : PolicyID) : Option GeneratedPolicy :=
  ps.entries.findSome? fun
    | .static p => if p.id = id then some p else none
    | .template p => if p.id = id then some p else none
    | .link _ => none

/-- `Template::check_binding`: every slot of the template is bound, and nothing else. -/
def GeneratedPolicy.bindsExactly (t : GeneratedPolicy) (bindings : List (SlotId × EntityUID)) :
    Bool :=
  t.slots.all (· ∈ bindings.map Prod.fst) && (bindings.map Prod.fst).all (· ∈ t.slots)

/-- `PolicySet::link`: the template must be in the set, the bindings must fill exactly its
slots, and the new identifier must be free. -/
def PolicySet.link (ps : PolicySet) (templateId newId : PolicyID)
    (bindings : List (SlotId × EntityUID)) : Except PolicySetError PolicySet :=
  match ps.getTemplate templateId with
  | none => .error (.noSuchTemplate templateId)
  | some t =>
    if t.bindsExactly bindings then ps.insert (.link ⟨newId, templateId, bindings⟩)
    else .error (.arity newId)

/-- `GeneratedPolicy::add_to_policyset` (generators): a policy with slots is added
as a template, one without as a static policy, and a refusal is a panic. -/
def GeneratedPolicy.addToPolicyset (p : GeneratedPolicy) (ps : PolicySet) :
    Except Panic PolicySet :=
  match if p.hasSlots then ps.addTemplate p else ps.addStatic p with
  | .ok ps' => .ok ps'
  | .error _ => .error .unwrap

/-- `GeneratedLinkedPolicy::add_to_policyset` (generators): link the template, and
panic on a refusal. -/
def GeneratedLinkedPolicy.addToPolicyset (l : GeneratedLinkedPolicy) (ps : PolicySet) :
    Except Panic PolicySet :=
  match ps.link l.templateId l.id l.bindings with
  | .ok ps' => .ok ps'
  | .error _ => .error .unwrap

/-- An insertion under a fresh identifier appends. -/
theorem PolicySet.insert_of_not_mem {ps : PolicySet} {e : PolicySetEntry} (h : e.id ∉ ps.ids) :
    ps.insert e = .ok ⟨ps.entries ++ [e]⟩ := by
  unfold PolicySet.insert
  rw [if_neg h]

/-- A fresh policy set takes any static policy. -/
@[simp] theorem PolicySet.new_addStatic (p : GeneratedPolicy) :
    PolicySet.new.addStatic p = .ok ⟨[.static p]⟩ := by
  simp [PolicySet.addStatic, PolicySet.insert, PolicySet.new, PolicySet.ids]

@[simp] theorem PolicySet.ids_mk (es : List PolicySetEntry) :
    (PolicySet.mk es).ids = es.map PolicySetEntry.id := rfl


/-! ### Settings and schemas -/

/-- The generators' `ABACSettings`: the knobs of a scenario kind. -/
structure ABACSettings where
  matchTypes : Bool
  enableExtensions : Bool
  maxDepth : Nat
  maxWidth : Nat
  enableAdditionalAttributes : Bool
  enableLike : Bool
  enableActionGroupsAndAttrs : Bool
  enableArbitraryFuncCall : Bool
  enableUnknowns : Bool
  enableActionInConstraints : Bool
  enableUnspecifiedApplySpec : Bool
  deriving DecidableEq, Repr

/-- A schema fragment's `NamespaceDefinition`, kept to the names it declares. -/
structure NamespaceDefinition where
  commonTypes : List String
  entityTypes : List String
  actions : List String
  deriving DecidableEq, Repr

/-- `ast::Name`: a basename and the path of namespaces it sits in. -/
structure Name where
  id : String
  path : List String
  deriving DecidableEq, Repr

/-- `Name::namespace`: the path, joined by `::`, without the basename. -/
def Name.namespace (n : Name) : String := "::".intercalate n.path

/-- The generators' `Schema`: the namespace's name, if any, and its definition. -/
structure Schema where
  «namespace» : Option Name
  schema : NamespaceDefinition
  deriving DecidableEq, Repr

/-- `Schema::entity_types`. -/
def Schema.entityTypes (s : Schema) : List String := s.schema.entityTypes

/-- `HierarchyGeneratorMode`'s attribute mode, kept to the variant the RBAC input asks
for. -/
inductive AttributesMode where
  | noAttributes
  deriving DecidableEq, Repr

/-- `EntityUIDGenMode`, kept to the variant the RBAC input asks for. -/
inductive EntityUIDGenMode where
  | default
  deriving DecidableEq, Repr

/-- `NumEntities`, kept to the variant the RBAC input asks for: a range per entity type. -/
inductive NumEntities where
  | rangePerEntityType (lo hi : Nat)
  deriving DecidableEq, Repr

/-- A `HierarchyGenerator`'s settings (its byte stream is the draw's own). -/
structure HierarchyGenerator where
  attributesMode : AttributesMode
  uidGenMode : EntityUIDGenMode
  numEntities : NumEntities
  deriving DecidableEq, Repr

/-! ### The generators -/

/-- The generators of `cedar_policy_generators` that the fuzz inputs call.  Their
code is not in this repository; each is any draw from the byte stream. -/
structure Generators where
  /-- `Schema::arbitrary`. -/
  schemaArbitrary : ABACSettings → Gen Schema
  /-- `Schema::arbitrary_hierarchy`. -/
  arbitraryHierarchy : Schema → Gen Hierarchy
  /-- `Schema::arbitrary_policy`. -/
  arbitraryPolicy : Schema → Hierarchy → Gen GeneratedPolicy
  /-- `Schema::arbitrary_request`. -/
  arbitraryRequest : Schema → Hierarchy → Gen Request
  /-- `HierarchyGenerator::generate`. -/
  generate : HierarchyGenerator → Gen Hierarchy
  /-- The scope `RBACPolicy::arbitrary_for_hierarchy` draws, as its slots; the flag
  allows slots. -/
  rbacScope : Hierarchy → Bool → Gen (List SlotId)
  /-- `Hierarchy::arbitrary_uid`. -/
  arbitraryUid : Hierarchy → Gen EntityUID
  /-- `RBACRequest::arbitrary_for_hierarchy`. -/
  rbacRequest : Hierarchy → Gen Request
  /-- `Entities::try_from` of a hierarchy: a store, an error, or a panic (`none`). -/
  entitiesTryFrom : Hierarchy → Option (Except String Entities)
  /-- The generators' `From<Error> for arbitrary::Error`, at `Error::EntitiesError`. -/
  entitiesError : String → Error

/-- `RBACPolicy::arbitrary_for_hierarchy(Some(id), ..)`: the policy keeps the
identifier it is given, and its scope is drawn. -/
def Generators.rbacPolicy (g : Generators) (id : PolicyID) (h : Hierarchy)
    (allowSlots : Bool) : Gen GeneratedPolicy := do
  let slots ← g.rbacScope h allowSlots
  pure ⟨id, slots⟩

/-- A uid of the hierarchy drawn for each slot, in order. -/
def Generators.bindSlots (g : Generators) (h : Hierarchy) :
    List SlotId → Gen (List (SlotId × EntityUID))
  | [] => pure []
  | s :: ss => do
    let uid ← g.arbitraryUid h
    let rest ← g.bindSlots h ss
    pure ((s, uid) :: rest)

/-- `GeneratedLinkedPolicy::arbitrary(id, template, ..)`.  Modelled from the spec: its code
is in `cedar-policy-generators`, which is not in `src/`, and the spec says each link
supplies "a concrete binding for every slot".  The link keeps its identifier, names its
template, and binds a drawn uid to each slot of the template. -/
def Generators.linkedPolicy (g : Generators) (id : PolicyID) (template : GeneratedPolicy)
    (h : Hierarchy) : Gen GeneratedLinkedPolicy := do
  let bindings ← g.bindSlots h template.slots
  pure ⟨id, template.id, bindings⟩

/-! ### A sample instance -/

/-- The uid `User::"alice"`. -/
def alice : EntityUID := ⟨"User", "alice"⟩

/-- The request `alice` views `alice`. -/
def aliceRequest : Request := ⟨alice, ⟨"Action", "view"⟩, alice⟩

/-- The hierarchy of the sample generators: `alice` alone. -/
def sampleHierarchy : Hierarchy := ⟨[⟨alice, []⟩]⟩

/-- A small instance of the generators, on which the hypotheses of the theorems can
be met: a schema declaring the entity type `User`, whose only entity is `alice`;
every request is `aliceRequest`; an RBAC scope has a `?principal` slot when the byte
it draws is odd.  The schema draw fails on an exhausted buffer. -/
def Generators.sample : Generators where
  schemaArbitrary _ u := match u.data with
    | [] => .error (.error .notEnoughData)
    | _ => .ok (⟨none, ⟨[], ["User"], ["view"]⟩⟩, u)
  arbitraryHierarchy _ := pure sampleHierarchy
  arbitraryPolicy _ _ := pure ⟨.fromString "policy0", []⟩
  arbitraryRequest _ _ := pure aliceRequest
  generate _ := pure sampleHierarchy
  rbacScope _ allowSlots := do
    let b ← Unstructured.byte
    pure (if allowSlots && b % 2 == 1 then [.principal] else [])
  arbitraryUid _ := pure alice
  rbacRequest _ := pure aliceRequest
  entitiesTryFrom h := some (.ok ⟨h.entities⟩)
  entitiesError _ := .incorrectFormat

/-! ### The observation record -/

/-- The `features` object of a record: a JSON object whose values, wherever the
harness writes one, are counts. -/
structure Features where
  entries : List (String × Nat)
  deriving DecidableEq, Repr

/-- `features[key] = json!(v)`: the key now holds `v`, and no other value. -/
def Features.set (f : Features) (key : String) (v : Nat) : Features :=
  ⟨(key, v) :: f.entries.filter fun kv => kv.1 != key⟩

/-- The value under a key. -/
def Features.get? (f : Features) (key : String) : Option Nat := f.entries.lookup key

/-- **A set key reads back** the value written. -/
@[simp] theorem Features.get?_set_self (f : Features) (key : String) (v : Nat) :
    (f.set key v).get? key = some v := by
  simp [Features.set, Features.get?, List.lookup]

/-- `TycheTest`, one observation record.  Its declaration is in the crate root,
which is not in this repository, and it is modelled from its uses:
`representation` and `timing` are left out (a rendering of the scenario, and
wall-clock durations), the other fields are as the harness writes them. -/
structure TycheTest where
  property : String
  status : String
  statusReason : String
  features : Features
  deriving DecidableEq, Repr

end CedarDrt
