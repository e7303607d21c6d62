import CedarDrt.Cedar

/-!
# The RBAC fuzz input

`RBACFuzzTargetInput::arbitrary` draws a hierarchy, then one or two policy
groups with `arbitrary_vec`, then eight requests.  A group is a static policy,
or — when the policy drawn for it has slots — a template with one to four links.

The policies are not named by the byte stream.  `arbitrary_vec` hands its
generator the index `v.len()` of the element it is about to push, and group `i`
names its policy `p{i}` and its `j`-th link `t{i}_l{j}`; two decimal names are
equal only for equal numbers, and a `p…` name never equals a `t…_l…` one.  So the
identifiers `test_rbac` adds to its policy set are pairwise distinct, whatever
the bytes and whatever bounds `arbitrary_vec` is given.

## Main definitions

* `arbitraryVec` — `arbitrary_vec`.
* `PolicyGroup`, `PolicyGroup.arbitraryForHierarchy` — a group, and its draw.
* `RBACFuzzTargetInput`, `RBACFuzzTargetInput.arbitrary` — the input, and its draw.
* `buildPolicySet` — the loop of `test_rbac` that adds every group to a policy set.

## Main results

* `arbitraryVec_eq_ok` — the vector has between `min` and `max` elements, and its
  `i`-th is what the generator returned at index `i`.
* `PolicyGroup.arbitraryForHierarchyWith_eq_ok` — the shape and names of a drawn group.
* `rbac_policy_groups_shape` — **the policy groups of a drawn input.**
* `rbac_policy_ids_distinct` — **the identifiers are distinct**, and `test_rbac`'s
  policy set takes every group: each link binds exactly its template's slots, as
  `PolicySet.link` checks.
-/

namespace CedarDrt

/-! ### Decimal names -/

/-- One step of reading a decimal numeral. -/
def decimalStep (acc : Nat) (c : Char) : Nat := acc * 10 + (c.toNat - 48)

theorem digitChar_toNat_sub : ∀ k, k < 10 → (Nat.digitChar k).toNat - 48 = k := by decide

theorem digitChar_isDigit : ∀ k, k < 10 → (Nat.digitChar k).isDigit := by decide

/-- Reading back the digits `toDigitsCore` prepends to `ds` continues from their value. -/
theorem foldl_toDigitsCore : ∀ (fuel n : Nat) (ds : List Char), n < fuel →
    (Nat.toDigitsCore 10 fuel n ds).foldl decimalStep 0 = ds.foldl decimalStep n
  | 0, _, _, h => absurd h (Nat.not_lt_zero _)
  | fuel + 1, n, ds, h => by
    have hd := digitChar_toNat_sub (n % 10) (Nat.mod_lt _ (by decide))
    rw [Nat.toDigitsCore]
    split
    · simp only [List.foldl_cons, decimalStep, hd]
      congr 1; omega
    · rw [foldl_toDigitsCore fuel (n / 10) _ (by omega), List.foldl_cons, decimalStep, hd]
      congr 1; omega

/-- **Decimal numerals are injective.** -/
theorem toDigits_injective : Function.Injective (Nat.toDigits 10) := by
  intro a b h
  have key : ∀ n, (Nat.toDigits 10 n).foldl decimalStep 0 = n := fun n =>
    foldl_toDigitsCore (n + 1) n [] (by omega)
  rw [← key a, ← key b, h]

theorem isDigit_of_mem_toDigitsCore : ∀ (fuel n : Nat) (ds : List Char),
    (∀ c ∈ ds, c.isDigit) → ∀ c ∈ Nat.toDigitsCore 10 fuel n ds, c.isDigit
  | 0, _, _, hds => hds
  | fuel + 1, n, ds, hds => by
    have hcons : ∀ c ∈ Nat.digitChar (n % 10) :: ds, c.isDigit := by
      simpa [digitChar_isDigit _ (Nat.mod_lt n (by decide))] using hds
    rw [Nat.toDigitsCore]
    split
    · exact hcons
    · exact isDigit_of_mem_toDigitsCore fuel _ _ hcons

/-- A decimal numeral has no underscore. -/
theorem underscore_not_mem_toDigits (n : Nat) : '_' ∉ Nat.toDigits 10 n := fun h => by
  have := isDigit_of_mem_toDigitsCore (n + 1) n [] (by simp) '_' h
  exact absurd this (by decide)

theorem policyName_data (i : Nat) : (s!"p{i}").data = 'p' :: Nat.toDigits 10 i := by
  simp [toString, Nat.repr, List.asString]

theorem linkName_data (i j : Nat) :
    (s!"t{i}_l{j}").data = 't' :: Nat.toDigits 10 i ++ '_' :: 'l' :: Nat.toDigits 10 j := by
  simp [toString, Nat.repr, List.asString]

theorem policyName_inj {i k : Nat} (h : s!"p{i}" = s!"p{k}") : i = k := by
  have := congrArg String.data h
  rw [policyName_data, policyName_data, List.cons.injEq] at this
  exact toDigits_injective this.2

theorem linkName_inj {i j k m : Nat} (h : s!"t{i}_l{j}" = s!"t{k}_l{m}") :
    i = k ∧ j = m := by
  have := congrArg String.data h
  simp only [linkName_data, List.cons_append, List.cons.injEq, true_and] at this
  obtain ⟨hi, -, hj⟩ := (List.append_cons_inj_of_not_mem (underscore_not_mem_toDigits i)
    (List.not_mem_cons_of_ne_of_not_mem (by decide) (underscore_not_mem_toDigits j))).mp this
  exact ⟨toDigits_injective hi, toDigits_injective (List.cons_injective hj)⟩

theorem policyName_ne_linkName (i k j : Nat) : s!"p{i}" ≠ s!"t{k}_l{j}" := fun h => by
  have := congrArg String.data h
  simp only [policyName_data, linkName_data, List.cons_append, List.cons.injEq] at this
  exact absurd this.1 (by decide)

/-! ### `arbitrary_vec` -/

/-- `arbitrary_vec(u, min, max, f)`: an `arbitrary_loop` whose body pushes
`f(v.len(), u)` onto the vector it captures and continues. -/
def arbitraryVec {α : Type} (min max : Option UInt32) (f : Nat → Gen α) : Gen (List α) :=
  Unstructured.arbitraryLoop min max [] fun v => do
    let x ← f v.length
    pure (v ++ [x], .continue)

/-- The run lemma of the pushing loop: `n` rounds append `n` elements, the `i`-th
of them drawn by `f` at the index the vector had then. -/
theorem loopTimes_push {α : Type} (f : Nat → Gen α) :
    ∀ (n : Nat) (v v' : List α) (u u' : Unstructured),
      Unstructured.loopTimes (fun v => do
        let x ← f v.length
        pure (v ++ [x], ControlFlow.continue)) n v u = .ok (v', u') →
      ∃ xs, v' = v ++ xs ∧ xs.length = n ∧
        ∀ i (hi : i < xs.length), ∃ u₁ u₂, f (v.length + i) u₁ = .ok (xs[i], u₂)
  | 0, v, v', u, u', h => by
    simp only [Unstructured.loopTimes, Gen.pure_apply, Except.ok.injEq, Prod.mk.injEq] at h
    exact ⟨[], by simp [h.1], rfl, fun i hi => absurd hi (by simp)⟩
  | n + 1, v, v', u, u', h => by
    obtain ⟨⟨s, c⟩, u₁, hstep, hrest⟩ := Gen.bind_eq_ok.mp h
    obtain ⟨x, u₂, hx, hpush⟩ := Gen.bind_eq_ok.mp hstep
    simp only [Gen.pure_apply, Except.ok.injEq, Prod.mk.injEq] at hpush
    obtain ⟨⟨rfl, rfl⟩, rfl⟩ := hpush
    obtain ⟨xs, rfl, hlen, hxs⟩ := loopTimes_push f n _ v' _ u' hrest
    refine ⟨x :: xs, by simp, by simp [hlen], fun i hi => ?_⟩
    cases i with
    | zero => exact ⟨u, _, by simpa using hx⟩
    | succ i =>
      obtain ⟨u₃, u₄, h'⟩ := hxs i (by simpa using hi)
      exact ⟨u₃, u₄, by simpa [Nat.add_assoc, Nat.add_comm 1 i] using h'⟩

/-- **`arbitrary_vec`'s law**: between `min` and `max` elements, the `i`-th drawn by
the generator at index `i`. -/
theorem arbitraryVec_eq_ok {α : Type} {min max : Option UInt32} {f : Nat → Gen α}
    {v : List α} {u u' : Unstructured} (h : arbitraryVec min max f u = .ok (v, u')) :
    (min.map UInt32.toNat).getD 0 ≤ v.length ∧
      v.length ≤ (max.map UInt32.toNat).getD (UInt32.size - 1) ∧
      ∀ i (hi : i < v.length), ∃ u₁ u₂, f i u₁ = .ok (v[i], u₂) := by
  obtain ⟨n, u₁, hmin, hmax, hloop⟩ := Unstructured.arbitraryLoop_eq_ok h
  obtain ⟨xs, rfl, rfl, hxs⟩ := loopTimes_push f n [] v u₁ u' hloop
  exact ⟨by simpa using hmin, by simpa using hmax, fun i hi => by simpa using hxs i hi⟩

/-! ### Policy groups -/

/-- `PolicyGroup`: one static policy, or a template with its links. -/
inductive PolicyGroup where
  | staticPolicy (p : GeneratedPolicy)
  | templateWithLinks (template : GeneratedPolicy) (links : List GeneratedLinkedPolicy)
  deriving DecidableEq, Repr

/-- `PolicyGroup::arbitrary_for_hierarchy`, with the bounds of its link vector as
parameters. -/
def PolicyGroup.arbitraryForHierarchyWith (linkMin linkMax : Option UInt32) (g : Generators)
    (pgIdx : Nat) (hierarchy : Hierarchy) : Gen PolicyGroup := do
  let policy ← g.rbacPolicy (PolicyID.fromString s!"p{pgIdx}") hierarchy true
  if policy.hasSlots then
    let links ← arbitraryVec linkMin linkMax fun lIdx =>
      g.linkedPolicy (PolicyID.fromString s!"t{pgIdx}_l{lIdx}") policy hierarchy
    pure (.templateWithLinks policy links)
  else pure (.staticPolicy policy)

/-- `PolicyGroup::arbitrary_for_hierarchy`: one to four links. -/
def PolicyGroup.arbitraryForHierarchy (g : Generators) (pgIdx : Nat)
    (hierarchy : Hierarchy) : Gen PolicyGroup :=
  PolicyGroup.arbitraryForHierarchyWith (some 1) (some 4) g pgIdx hierarchy

/-- A drawn group, as `PolicyGroup.arbitraryForHierarchyWith_eq_ok` describes it: the
policy drawn for group `pgIdx`, static exactly when it has no slots, and otherwise
with links drawn from it, the `j`-th named `t{pgIdx}_l{j}`. -/
def PolicyGroup.Drawn (g : Generators) (linkMin linkMax : Nat) (pgIdx : Nat)
    (hierarchy : Hierarchy) (pg : PolicyGroup) : Prop :=
  ∃ p u₁ u₂, g.rbacPolicy (PolicyID.fromString s!"p{pgIdx}") hierarchy true u₁ = .ok (p, u₂) ∧
    ((pg = .staticPolicy p ∧ p.hasSlots = false) ∨
      ∃ links, pg = .templateWithLinks p links ∧ p.hasSlots = true ∧
        linkMin ≤ links.length ∧ links.length ≤ linkMax ∧
        ∀ j (hj : j < links.length), ∃ u₃ u₄,
          g.linkedPolicy (PolicyID.fromString s!"t{pgIdx}_l{j}") p hierarchy u₃ = .ok (links[j], u₄))

/-- **The shape of a drawn group.** -/
theorem PolicyGroup.arbitraryForHierarchyWith_eq_ok {linkMin linkMax : Option UInt32}
    {g : Generators} {pgIdx : Nat} {hierarchy : Hierarchy} {pg : PolicyGroup}
    {u u' : Unstructured}
    (h : PolicyGroup.arbitraryForHierarchyWith linkMin linkMax g pgIdx hierarchy u = .ok (pg, u')) :
    PolicyGroup.Drawn g ((linkMin.map UInt32.toNat).getD 0)
      ((linkMax.map UInt32.toNat).getD (UInt32.size - 1)) pgIdx hierarchy pg := by
  obtain ⟨p, u₁, hp, hrest⟩ := Gen.bind_eq_ok.mp h
  refine ⟨p, u, u₁, hp, ?_⟩
  by_cases hs : p.hasSlots
  · rw [if_pos hs] at hrest
    obtain ⟨links, u₂, hlinks, hpure⟩ := Gen.bind_eq_ok.mp hrest
    simp only [Gen.pure_apply, Except.ok.injEq, Prod.mk.injEq] at hpure
    obtain ⟨hmin, hmax, hj⟩ := arbitraryVec_eq_ok hlinks
    exact .inr ⟨links, hpure.1.symm, hs, hmin, hmax, hj⟩
  · rw [if_neg hs] at hrest
    simp only [Gen.pure_apply, Except.ok.injEq, Prod.mk.injEq] at hrest
    exact .inl ⟨hrest.1.symm, by simpa using hs⟩

/-- The policy a generated group's `rbacPolicy` draw returns keeps its name. -/
theorem Generators.rbacPolicy_id {g : Generators} {id : PolicyID} {h : Hierarchy} {b : Bool}
    {p : GeneratedPolicy} {u u' : Unstructured} (hp : g.rbacPolicy id h b u = .ok (p, u')) :
    p.id = id := by
  obtain ⟨slots, u₁, -, hpure⟩ := Gen.bind_eq_ok.mp hp
  simp only [Gen.pure_apply, Except.ok.injEq, Prod.mk.injEq] at hpure
  rw [← hpure.1]

/-- Drawn bindings bind the slots asked for, in order. -/
theorem Generators.bindSlots_slots {g : Generators} {h : Hierarchy} :
    ∀ {ss : List SlotId} {bs : List (SlotId × EntityUID)} {u u' : Unstructured},
      g.bindSlots h ss u = .ok (bs, u') → bs.map Prod.fst = ss
  | [], _, _, _, hb => by
    simp only [Generators.bindSlots, Gen.pure_apply, Except.ok.injEq, Prod.mk.injEq] at hb
    rw [← hb.1, List.map_nil]
  | s :: ss, _, _, _, hb => by
    obtain ⟨uid, u₁, -, hb⟩ := Gen.bind_eq_ok.mp hb
    obtain ⟨rest, u₂, hrest, hb⟩ := Gen.bind_eq_ok.mp hb
    simp only [Gen.pure_apply, Except.ok.injEq, Prod.mk.injEq] at hb
    rw [← hb.1, List.map_cons, Generators.bindSlots_slots hrest]

/-- A drawn link keeps its name, names its template, and binds exactly its slots. -/
theorem Generators.linkedPolicy_ids {g : Generators} {id : PolicyID} {t : GeneratedPolicy}
    {h : Hierarchy} {l : GeneratedLinkedPolicy} {u u' : Unstructured}
    (hl : g.linkedPolicy id t h u = .ok (l, u')) :
    l.id = id ∧ l.templateId = t.id ∧ t.bindsExactly l.bindings = true := by
  obtain ⟨bs, u₁, hbs, hpure⟩ := Gen.bind_eq_ok.mp hl
  simp only [Gen.pure_apply, Except.ok.injEq, Prod.mk.injEq] at hpure
  rw [← hpure.1]
  exact ⟨rfl, rfl, by simp [GeneratedPolicy.bindsExactly, Generators.bindSlots_slots hbs]⟩

/-! ### Names and the policy set -/

/-- The identifiers a group puts into a policy set: its policy's, then its links'. -/
def PolicyGroup.ids : PolicyGroup → List PolicyID
  | .staticPolicy p => [p.id]
  | .templateWithLinks template links => template.id :: links.map GeneratedLinkedPolicy.id

/-- The names group `i` gives: `p{i}`, then `t{i}_l{j}` for its `j`-th link. -/
def PolicyGroup.names (i : Nat) : PolicyGroup → List PolicyID
  | .staticPolicy _ => [PolicyID.fromString s!"p{i}"]
  | .templateWithLinks _ links => PolicyID.fromString s!"p{i}" ::
      (List.range links.length).map fun j => PolicyID.fromString s!"t{i}_l{j}"

/-- A group's links hang off its template: the template has slots, and every link names
it and binds exactly its slots. -/
def PolicyGroup.Linked : PolicyGroup → Prop
  | .staticPolicy _ => True
  | .templateWithLinks template links =>
      template.hasSlots = true ∧
        ∀ l ∈ links, l.templateId = template.id ∧ template.bindsExactly l.bindings = true

/-- A drawn group carries the names of its index, and its links hang off its template. -/
theorem PolicyGroup.Drawn.ids_eq {g : Generators} {lo hi i : Nat} {h : Hierarchy}
    {pg : PolicyGroup} (hd : PolicyGroup.Drawn g lo hi i h pg) :
    pg.ids = pg.names i ∧ pg.Linked := by
  obtain ⟨p, u₁, u₂, hp, ⟨rfl, -⟩ | ⟨links, rfl, hs, -, -, hlinks⟩⟩ := hd
  · exact ⟨by simp [PolicyGroup.ids, PolicyGroup.names, Generators.rbacPolicy_id hp], trivial⟩
  · have hnames : links.map GeneratedLinkedPolicy.id =
        (List.range links.length).map fun j => PolicyID.fromString s!"t{i}_l{j}" := by
      apply List.ext_getElem (by simp)
      intro j h₁ _
      obtain ⟨u₃, u₄, hl⟩ := hlinks j (by simpa using h₁)
      simpa using (Generators.linkedPolicy_ids hl).1
    refine ⟨by simp [PolicyGroup.ids, PolicyGroup.names, Generators.rbacPolicy_id hp, hnames],
      hs, fun l hl => ?_⟩
    obtain ⟨j, hj, rfl⟩ := List.getElem_of_mem hl
    obtain ⟨u₃, u₄, hl'⟩ := hlinks j hj
    exact (Generators.linkedPolicy_ids hl').2

/-- An identifier is one of the names of group `i`. -/
def PolicyID.OfGroup (i : Nat) (id : PolicyID) : Prop :=
  id = PolicyID.fromString s!"p{i}" ∨ ∃ j : Nat, id = PolicyID.fromString s!"t{i}_l{j}"

/-- A name belongs to one group only. -/
theorem PolicyID.OfGroup.unique {i k : Nat} {id : PolicyID} :
    id.OfGroup i → id.OfGroup k → i = k := by
  rintro (rfl | ⟨j, rfl⟩) (h | ⟨m, h⟩) <;> simp only [PolicyID.fromString, PolicyID.mk.injEq] at h
  · exact policyName_inj h
  · exact absurd h (policyName_ne_linkName i k m)
  · exact absurd h.symm (policyName_ne_linkName k i j)
  · exact (linkName_inj h).1

theorem PolicyGroup.names_nodup (i : Nat) (pg : PolicyGroup) : (pg.names i).Nodup := by
  cases pg with
  | staticPolicy p => simp [PolicyGroup.names]
  | templateWithLinks t links =>
    refine List.nodup_cons.mpr ⟨?_, List.Nodup.map (fun j m h => ?_) (List.nodup_range _)⟩
    · simp only [List.mem_map, not_exists, not_and]
      intro j _ h
      simp only [PolicyID.fromString, PolicyID.mk.injEq] at h
      exact policyName_ne_linkName i i j h.symm
    · simp only [PolicyID.fromString, PolicyID.mk.injEq] at h
      exact (linkName_inj h).2

theorem PolicyGroup.ofGroup_of_mem_names {i : Nat} {pg : PolicyGroup} {id : PolicyID}
    (h : id ∈ pg.names i) : id.OfGroup i := by
  cases pg with
  | staticPolicy p => exact Or.inl (by simpa [PolicyGroup.names] using h)
  | templateWithLinks t links =>
    simp only [PolicyGroup.names, List.mem_cons, List.mem_map] at h
    rcases h with rfl | ⟨j, -, rfl⟩
    · exact Or.inl rfl
    · exact Or.inr ⟨j, rfl⟩

/-- Groups named from index `k` on: their identifiers are distinct, and each is a
name of a group `k` or later. -/
theorem flatMap_ids_nodup : ∀ (groups : List PolicyGroup) (k : Nat),
    (∀ i (hi : i < groups.length), groups[i].ids = groups[i].names (k + i)) →
      (groups.flatMap PolicyGroup.ids).Nodup ∧
        ∀ id ∈ groups.flatMap PolicyGroup.ids, ∃ m, k ≤ m ∧ id.OfGroup m
  | [], _, _ => by simp
  | pg :: groups, k, h => by
    have hpg : pg.ids = pg.names k := by simpa using h 0 (by simp)
    obtain ⟨hnd, hof⟩ := flatMap_ids_nodup groups (k + 1) fun i hi => by
      simpa [Nat.add_assoc, Nat.add_comm 1 i] using h (i + 1) (by simpa using hi)
    rw [List.flatMap_cons, hpg]
    refine ⟨List.nodup_append.mpr ⟨PolicyGroup.names_nodup k pg, hnd, fun id h₁ h₂ => ?_⟩,
      fun id hid => ?_⟩
    · obtain ⟨m, hm, hofm⟩ := hof id h₂
      have := (PolicyGroup.ofGroup_of_mem_names h₁).unique hofm
      omega
    · rcases List.mem_append.mp hid with h₁ | h₂
      · exact ⟨k, le_rfl, PolicyGroup.ofGroup_of_mem_names h₁⟩
      · obtain ⟨m, hm, hofm⟩ := hof id h₂
        exact ⟨m, by omega, hofm⟩

/-- The body of `test_rbac`'s loop for one group: the policy, then each link. -/
def PolicyGroup.addToPolicyset (pg : PolicyGroup) (ps : PolicySet) : Except Panic PolicySet :=
  match pg with
  | .staticPolicy p => p.addToPolicyset ps
  | .templateWithLinks template links => do
    let ps ← template.addToPolicyset ps
    links.foldlM (fun ps link => link.addToPolicyset ps) ps

/-- The loop of `test_rbac` that adds every group to a fresh policy set. -/
def buildPolicySet (groups : List PolicyGroup) : Except Panic PolicySet :=
  groups.foldlM (fun ps pg => pg.addToPolicyset ps) PolicySet.new

/-- An identifier no entry holds names no template. -/
theorem PolicySet.getTemplate_of_not_mem {es : List PolicySetEntry} {id : PolicyID}
    (h : id ∉ (PolicySet.mk es).ids) : (PolicySet.mk es).getTemplate id = none := by
  refine List.findSome?_eq_none_iff.mpr fun e he => ?_
  have hne : e.id ≠ id := fun heq => h (List.mem_map.mpr ⟨e, he, heq⟩)
  cases e <;> simp_all

/-- A template found stays found as entries are added. -/
theorem PolicySet.getTemplate_append {es : List PolicySetEntry} {id : PolicyID}
    {t : GeneratedPolicy}
    (e : PolicySetEntry) (h : (PolicySet.mk es).getTemplate id = some t) :
    (PolicySet.mk (es ++ [e])).getTemplate id = some t := by
  simp only [PolicySet.getTemplate, List.findSome?_append] at h ⊢
  rw [h, Option.or_some]

/-- A policy under a fresh identifier is added. -/
theorem GeneratedPolicy.addToPolicyset_eq_ok {p : GeneratedPolicy} {ps : PolicySet}
    (h : p.id ∉ ps.ids) : p.addToPolicyset ps =
      .ok ⟨ps.entries ++ [if p.hasSlots then .template p else .static p]⟩ := by
  unfold GeneratedPolicy.addToPolicyset PolicySet.addTemplate PolicySet.addStatic
  by_cases hs : p.hasSlots <;> simp [hs, PolicySet.insert_of_not_mem, h]

/-- Links of a template the set holds, binding exactly its slots under fresh identifiers,
are all added. -/
theorem addLinks_eq_ok {t : GeneratedPolicy} :
    ∀ (links : List GeneratedLinkedPolicy) (ps : PolicySet), ps.getTemplate t.id = some t →
      (∀ l ∈ links, l.templateId = t.id ∧ t.bindsExactly l.bindings = true) →
      (ps.ids ++ links.map GeneratedLinkedPolicy.id).Nodup →
      ∃ ps', links.foldlM (fun ps link => link.addToPolicyset ps) ps = .ok ps' ∧
        ps'.ids = ps.ids ++ links.map GeneratedLinkedPolicy.id
  | [], ps, _, _, _ => ⟨ps, rfl, by simp⟩
  | l :: links, ⟨es⟩, ht, hl, hnd => by
    obtain ⟨hid, hbinds⟩ := hl l (List.mem_cons_self _ _)
    have hfresh : l.id ∉ (PolicySet.mk es).ids := fun hmem =>
      List.disjoint_of_nodup_append hnd hmem (List.mem_cons_self _ _)
    have hins : (PolicySet.mk es).insert (.link ⟨l.id, t.id, l.bindings⟩) =
        .ok ⟨es ++ [.link ⟨l.id, t.id, l.bindings⟩]⟩ := PolicySet.insert_of_not_mem hfresh
    have hadd : l.addToPolicyset ⟨es⟩ = .ok ⟨es ++ [.link ⟨l.id, t.id, l.bindings⟩]⟩ := by
      simp only [GeneratedLinkedPolicy.addToPolicyset, PolicySet.link, hid, ht, hbinds, if_true,
        hins]
    obtain ⟨ps', hfold, hids⟩ := addLinks_eq_ok links ⟨es ++ [.link ⟨l.id, t.id, l.bindings⟩]⟩
      (PolicySet.getTemplate_append _ ht) (fun l' h' => hl l' (List.mem_cons_of_mem _ h'))
      (by simpa using hnd)
    exact ⟨ps', by simp [List.foldlM_cons, hadd, hfold, bind, Except.bind], by simpa using hids⟩

/-- A group whose links hang off its template, under fresh identifiers, is added. -/
theorem PolicyGroup.addToPolicyset_eq_ok {pg : PolicyGroup} {ps : PolicySet} (hl : pg.Linked)
    (hnd : (ps.ids ++ pg.ids).Nodup) :
    ∃ ps', pg.addToPolicyset ps = .ok ps' ∧ ps'.ids = ps.ids ++ pg.ids := by
  obtain ⟨es⟩ := ps
  cases pg with
  | staticPolicy p =>
    have hfresh : p.id ∉ (PolicySet.mk es).ids := fun h =>
      List.disjoint_of_nodup_append hnd h (by simp [ids])
    refine ⟨_, GeneratedPolicy.addToPolicyset_eq_ok hfresh, ?_⟩
    split <;> simp [PolicyGroup.ids]
  | templateWithLinks t links =>
    obtain ⟨hs, hlinks⟩ := hl
    have hfresh : t.id ∉ (PolicySet.mk es).ids := fun h =>
      List.disjoint_of_nodup_append hnd h (by simp [ids])
    have ht : (PolicySet.mk (es ++ [.template t])).getTemplate t.id = some t := by
      have h0 := PolicySet.getTemplate_of_not_mem hfresh
      simp only [PolicySet.getTemplate] at h0 ⊢
      rw [List.findSome?_append, h0]
      simp
    obtain ⟨ps', hfold, hids⟩ := addLinks_eq_ok links _ ht hlinks
      (by simpa [PolicyGroup.ids] using hnd)
    refine ⟨ps', ?_, by simpa [PolicyGroup.ids] using hids⟩
    simp [PolicyGroup.addToPolicyset, GeneratedPolicy.addToPolicyset_eq_ok hfresh, hs, hfold,
      bind, Except.bind]

/-- **The policy set of `test_rbac` is built without a refusal** when the groups'
identifiers are distinct and their links hang off their templates. -/
theorem foldlM_addToPolicyset_eq_ok : ∀ (groups : List PolicyGroup) (ps : PolicySet),
    (∀ pg ∈ groups, pg.Linked) → (ps.ids ++ groups.flatMap PolicyGroup.ids).Nodup →
      ∃ ps', groups.foldlM (fun ps pg => pg.addToPolicyset ps) ps = .ok ps' ∧
        ps'.ids = ps.ids ++ groups.flatMap PolicyGroup.ids
  | [], ps, _, _ => ⟨ps, rfl, by simp⟩
  | pg :: groups, ps, hl, hnd => by
    rw [List.flatMap_cons, ← List.append_assoc] at hnd
    obtain ⟨ps₁, hadd, hids₁⟩ := PolicyGroup.addToPolicyset_eq_ok (hl pg (List.mem_cons_self _ _))
      (List.nodup_append.mp hnd).1
    obtain ⟨ps', hfold, hids⟩ := foldlM_addToPolicyset_eq_ok groups ps₁
      (fun pg' h => hl pg' (List.mem_cons_of_mem _ h)) (hids₁ ▸ hnd)
    exact ⟨ps', by simp [List.foldlM_cons, hadd, hfold, bind, Except.bind],
      by rw [hids, hids₁, List.append_assoc, List.flatMap_cons]⟩

/-! ### The input -/

/-- The hierarchy the RBAC input asks for: no attributes, the default uid mode, and
zero to four entities of each type. -/
def rbacHierarchyGenerator : HierarchyGenerator :=
  { attributesMode := .noAttributes, uidGenMode := .default,
    numEntities := .rangePerEntityType 0 4 }

/-- `RBACFuzzTargetInput`: an RBAC hierarchy, the policy groups, and eight requests. -/
structure RBACFuzzTargetInput where
  hierarchy : Hierarchy
  policyGroups : List PolicyGroup
  requests : List Request
  requests_length : requests.length = 8

/-- `RBACFuzzTargetInput::arbitrary`, with the bounds of both vectors as parameters. -/
def RBACFuzzTargetInput.arbitraryWith (groupMin groupMax linkMin linkMax : Option UInt32)
    (g : Generators) : Gen RBACFuzzTargetInput := do
  let hierarchy ← g.generate rbacHierarchyGenerator
  let policyGroups ← arbitraryVec groupMin groupMax fun idx =>
    PolicyGroup.arbitraryForHierarchyWith linkMin linkMax g idx hierarchy
  let requests ← drawN (g.rbacRequest hierarchy) 8
  pure ⟨hierarchy, policyGroups, requests.1, requests.2⟩

/-- `RBACFuzzTargetInput::get_features`: no features. -/
def RBACFuzzTargetInput.getFeatures (_ : RBACFuzzTargetInput) : Features := ⟨[]⟩

/-- `RBACFuzzTargetInput::to_tyche`; `dflt` is `TycheTest::default()`. -/
def RBACFuzzTargetInput.toTyche (dflt : TycheTest) (input : RBACFuzzTargetInput) : TycheTest :=
  { dflt with property := "rbac", features := input.getFeatures }

/-- `RBACFuzzTargetInput::arbitrary`: one or two groups, of one to four links each. -/
def RBACFuzzTargetInput.arbitrary (g : Generators) : Gen RBACFuzzTargetInput :=
  RBACFuzzTargetInput.arbitraryWith (some 1) (some 2) (some 1) (some 4) g

/-- **The spec of the RBAC draw**: the hierarchy is the generator's, there are
between `groupMin` and `groupMax` groups, and group `i` is drawn for index `i`. -/
theorem RBACFuzzTargetInput.arbitraryWith_eq_ok {groupMin groupMax linkMin linkMax : Option UInt32}
    {g : Generators} {u u' : Unstructured} {input : RBACFuzzTargetInput}
    (h : RBACFuzzTargetInput.arbitraryWith groupMin groupMax linkMin linkMax g u = .ok (input, u')) :
    (∃ u₁, g.generate rbacHierarchyGenerator u = .ok (input.hierarchy, u₁)) ∧
      (groupMin.map UInt32.toNat).getD 0 ≤ input.policyGroups.length ∧
      input.policyGroups.length ≤ (groupMax.map UInt32.toNat).getD (UInt32.size - 1) ∧
      ∀ i (hi : i < input.policyGroups.length),
        PolicyGroup.Drawn g ((linkMin.map UInt32.toNat).getD 0)
          ((linkMax.map UInt32.toNat).getD (UInt32.size - 1)) i input.hierarchy
          input.policyGroups[i] := by
  obtain ⟨hier, u₁, hhier, h⟩ := Gen.bind_eq_ok.mp h
  obtain ⟨groups, u₂, hgroups, h⟩ := Gen.bind_eq_ok.mp h
  obtain ⟨reqs, u₃, -, hpure⟩ := Gen.bind_eq_ok.mp h
  simp only [Gen.pure_apply, Except.ok.injEq, Prod.mk.injEq] at hpure
  obtain ⟨rfl, -⟩ := hpure
  obtain ⟨hmin, hmax, hidx⟩ := arbitraryVec_eq_ok hgroups
  refine ⟨⟨u₁, hhier⟩, hmin, hmax, fun i hi => ?_⟩
  obtain ⟨u₄, u₅, hi'⟩ := hidx i hi
  exact PolicyGroup.arbitraryForHierarchyWith_eq_ok hi'

/-- **The RBAC input's policy groups.**  One or two groups; group `i` holds the
policy drawn for it, as a static policy exactly when that policy has no slots, and
otherwise as a template with one to four links, each drawn by
`GeneratedLinkedPolicy::arbitrary` from that template. -/
theorem rbac_policy_groups_shape (g : Generators) (data : List UInt8) {u' : Unstructured}
    {input : RBACFuzzTargetInput}
    (h : RBACFuzzTargetInput.arbitrary g (.new data) = .ok (input, u')) :
    1 ≤ input.policyGroups.length ∧ input.policyGroups.length ≤ 2 ∧
      ∀ i (hi : i < input.policyGroups.length),
        ∃ p u₁ u₂, g.rbacPolicy (PolicyID.fromString s!"p{i}") input.hierarchy true u₁ =
            .ok (p, u₂) ∧
          ((input.policyGroups[i] = .staticPolicy p ∧ p.hasSlots = false) ∨
            ∃ links, input.policyGroups[i] = .templateWithLinks p links ∧ p.hasSlots = true ∧
              1 ≤ links.length ∧ links.length ≤ 4 ∧
              ∀ l ∈ links, ∃ id u₃ u₄, g.linkedPolicy id p input.hierarchy u₃ = .ok (l, u₄)) := by
  obtain ⟨-, hmin, hmax, hgroups⟩ := RBACFuzzTargetInput.arbitraryWith_eq_ok h
  refine ⟨hmin, hmax, fun i hi => ?_⟩
  obtain ⟨p, u₁, u₂, hp, hshape⟩ := hgroups i hi
  refine ⟨p, u₁, u₂, hp,
    hshape.imp id fun ⟨links, heq, hs, hl, hu, hj⟩ => ⟨links, heq, hs, hl, hu, ?_⟩⟩
  intro l hl'
  obtain ⟨j, hj', rfl⟩ := List.getElem_of_mem hl'
  obtain ⟨u₃, u₄, hlink⟩ := hj j hj'
  exact ⟨_, u₃, u₄, hlink⟩

/-- The RBAC input the sample generators draw from the bytes `[1, 1, 2, 0]`: two
groups, a template `p0` with a `?principal` slot and three links, and a static policy
`p1`. -/
def sampleRbacInput : RBACFuzzTargetInput :=
  let p0 : GeneratedPolicy := ⟨.fromString "p0", [.principal]⟩
  ⟨sampleHierarchy,
    [.templateWithLinks p0
      [⟨.fromString "t0_l0", p0.id, [(.principal, alice)]⟩,
       ⟨.fromString "t0_l1", p0.id, [(.principal, alice)]⟩,
       ⟨.fromString "t0_l2", p0.id, [(.principal, alice)]⟩],
     .staticPolicy ⟨.fromString "p1", []⟩],
    List.replicate 8 aliceRequest, rfl⟩

theorem rbac_policy_groups_shape_sample :
    RBACFuzzTargetInput.arbitrary Generators.sample (.new [1, 1, 2, 0]) =
        .ok (sampleRbacInput, ⟨[]⟩) ∧
      1 ≤ sampleRbacInput.policyGroups.length ∧ sampleRbacInput.policyGroups.length ≤ 2 ∧
      ∀ i (hi : i < sampleRbacInput.policyGroups.length),
        ∃ p u₁ u₂, Generators.sample.rbacPolicy (PolicyID.fromString s!"p{i}")
            sampleRbacInput.hierarchy true u₁ = .ok (p, u₂) ∧
          ((sampleRbacInput.policyGroups[i] = .staticPolicy p ∧ p.hasSlots = false) ∨
            ∃ links, sampleRbacInput.policyGroups[i] = .templateWithLinks p links ∧
              p.hasSlots = true ∧ 1 ≤ links.length ∧ links.length ≤ 4 ∧
              ∀ l ∈ links, ∃ id u₃ u₄,
                Generators.sample.linkedPolicy id p sampleRbacInput.hierarchy u₃ = .ok (l, u₄)) :=
  ⟨by rfl, rbac_policy_groups_shape Generators.sample [1, 1, 2, 0] (by rfl)⟩

/-- The policy set `test_rbac` builds from a drawn input: the identifiers of all groups
are pairwise distinct, and the set holds exactly them, none refused. -/
theorem RBACFuzzTargetInput.buildPolicySet_of_arbitraryWith
    {groupMin groupMax linkMin linkMax : Option UInt32} {g : Generators} {u u' : Unstructured}
    {input : RBACFuzzTargetInput}
    (h : RBACFuzzTargetInput.arbitraryWith groupMin groupMax linkMin linkMax g u = .ok (input, u')) :
    (input.policyGroups.flatMap PolicyGroup.ids).Nodup ∧
      ∃ ps, buildPolicySet input.policyGroups = .ok ps ∧
        ps.ids = input.policyGroups.flatMap PolicyGroup.ids := by
  obtain ⟨-, -, -, hgroups⟩ := RBACFuzzTargetInput.arbitraryWith_eq_ok h
  have hnamed := fun i hi => (hgroups i hi).ids_eq
  obtain ⟨hnd, -⟩ := flatMap_ids_nodup input.policyGroups 0 fun i hi => by
    simpa using (hnamed i hi).1
  have hlinked : ∀ pg ∈ input.policyGroups, pg.Linked := fun pg hpg => by
    obtain ⟨i, hi, rfl⟩ := List.getElem_of_mem hpg
    exact (hnamed i hi).2
  obtain ⟨ps, hps, hids⟩ := foldlM_addToPolicyset_eq_ok input.policyGroups PolicySet.new hlinked
    (by simpa [PolicySet.new] using hnd)
  exact ⟨hnd, ps, hps, by simpa [PolicySet.new] using hids⟩

/-- **Policy identifiers are distinct.**  Whatever bounds the two vectors are given,
group `i` of a drawn RBAC input is named `p{i}` and its `j`-th link `t{i}_l{j}`, its
links hang off its template, the identifiers of all groups are pairwise distinct,
and the loop of `test_rbac` adds exactly them to its policy set, none refused. -/
theorem rbac_policy_ids_distinct (groupMin groupMax linkMin linkMax : Option UInt32)
    (g : Generators) (data : List UInt8) {u' : Unstructured} {input : RBACFuzzTargetInput}
    (h : RBACFuzzTargetInput.arbitraryWith groupMin groupMax linkMin linkMax g (.new data) =
      .ok (input, u')) :
    (∀ i (hi : i < input.policyGroups.length),
      input.policyGroups[i].ids = input.policyGroups[i].names i ∧ input.policyGroups[i].Linked) ∧
    (input.policyGroups.flatMap PolicyGroup.ids).Nodup ∧
    ∃ ps, buildPolicySet input.policyGroups = .ok ps ∧
      ps.ids = input.policyGroups.flatMap PolicyGroup.ids := by
  obtain ⟨-, -, -, hgroups⟩ := RBACFuzzTargetInput.arbitraryWith_eq_ok h
  exact ⟨fun i hi => (hgroups i hi).ids_eq, RBACFuzzTargetInput.buildPolicySet_of_arbitraryWith h⟩

theorem rbac_policy_ids_distinct_sample :
    RBACFuzzTargetInput.arbitraryWith (some 1) (some 2) (some 1) (some 4) Generators.sample
        (.new [1, 1, 2, 0]) = .ok (sampleRbacInput, ⟨[]⟩) ∧
      (∀ i (hi : i < sampleRbacInput.policyGroups.length),
        sampleRbacInput.policyGroups[i].ids = sampleRbacInput.policyGroups[i].names i ∧
          sampleRbacInput.policyGroups[i].Linked) ∧
      (sampleRbacInput.policyGroups.flatMap PolicyGroup.ids).Nodup ∧
      ∃ ps, buildPolicySet sampleRbacInput.policyGroups = .ok ps ∧
        ps.ids = sampleRbacInput.policyGroups.flatMap PolicyGroup.ids :=
  ⟨by rfl, rbac_policy_ids_distinct (some 1) (some 2) (some 1) (some 4) Generators.sample
    [1, 1, 2, 0] (by rfl)⟩

end CedarDrt
