/-
When a list and the check of a single row agree.

A list asks for its permission without a place and is filtered by every scope the account holds,
by whatever role; the check asks for the permission at the node of the row, and anywhere when the
row has none.  So a row can be listed under a scope whose role lacks the permission, and a row
without a node can be checked that no list shows.
-/
import SaaradhiGo.AdminAccess.Scoping

namespace SaaradhiGo.AdminAccess.Scoping

/-! ## Scopes and permissions -/

/-- A scope shows a row: it is Global, or it covers a node a list reaches from the row. -/
def Shows (a : AdminAssignment) (row : Row) : Prop :=
  a.scope.kind = .global ∨ ∃ n, some n ∈ scopePaths row ∧ a.scope.covers n = true

/-- A row is shown to an account: every scoped account sees it, or a scope shows it. -/
def Seen (u : Account) (row : Row) : Prop :=
  unscopedUnion row = true ∨ ∃ a ∈ activeAssignments u, Shows a row

/-- A role that has the permission is held somewhere. -/
def HeldSomewhere (u : Account) (p : Permission) : Prop :=
  ∃ a ∈ activeAssignments u, p.name ∈ a.role.permissions

def HeldAt (u : Account) (p : Permission) (n : GeoNode) : Prop :=
  ∃ a ∈ activeAssignments u, p.name ∈ a.role.permissions ∧ a.scope.covers n = true

/-- Some scope of the account, whatever its role, is Global or covers the place. -/
def Within (u : Account) (place : Option GeoNode) : Prop :=
  ∃ a ∈ activeAssignments u, a.scope.kind = .global ∨
    ∃ n, place = some n ∧ a.scope.covers n = true

/-- The scopes fit a row that is listed at one place and checked at another: without a place to
check it must be listed; who is listed it must hold the permission at the place checked; and who
holds it there, where it is not listed, must be listed it elsewhere. -/
def FitsPlaces (u : Account) (p : Permission) (listed : Option GeoNode) : Option GeoNode → Prop
  | none => Within u listed
  | some n => (Within u listed → HeldAt u p n) ∧
      (listed ≠ some n → HeldAt u p n → Within u listed)

def User.home (user : User) : Option GeoNode := user.driver.bind Driver.homeCity

/-- The scopes of an account fit a permission and a row, by the anchors of the row. -/
def Fits (u : Account) (p : Permission) : Row → Prop
  | .trip t => match t.zone with
    | some z => FitsPlaces u p z.geoNode z.geoNode
    -- without a zone a trip is listed nowhere, and checked at the rider's home city
    | none => FitsPlaces u p none t.userId.home
  | .payment tripId userId => match tripId.zone with
    | some z => FitsPlaces u p z.geoNode z.geoNode
    | none => FitsPlaces u p none userId.home
  | .transactionHistory tripId userId driverId => match tripId.bind Trip.zone with
    -- listed at the driver's home city, and checked at the trip's zone or the user's home city
    | some z => FitsPlaces u p driverId.homeCity z.geoNode
    | none => FitsPlaces u p driverId.homeCity userId.home
  | .driver d | .withdrawalRequest d => FitsPlaces u p d.homeCity d.homeCity
  | .serviceZone z | .rateCard z | .serviceZoneRevision z => FitsPlaces u p z.geoNode z.geoNode
  | .geoNode n => FitsPlaces u p (some n) (some n)
  | .notificationCampaign g | .promotionCampaign g | .commissionRule g => FitsPlaces u p g g
  -- these are listed at their anchor, and checked anywhere
  | .vehicle d => FitsPlaces u p d.homeCity none
  | .supplySample city => FitsPlaces u p (some city) none
  | .notificationMessage city => FitsPlaces u p city none
  | .riskFlag anchorNode => FitsPlaces u p anchorNode none
  -- every scoped account is listed a template without a place
  | .notificationTemplate none => True
  | .notificationTemplate (some n) => FitsPlaces u p (some n) (some n)
  | .sosEvent none source trip _ =>
      source = .unanchored ∨ Within u (trip.bind Trip.zoneNode)
  | .sosEvent (some n) source trip _ =>
      source = .unanchored ∨ Within u (some n) ∨ Within u (trip.bind Trip.zoneNode) → HeldAt u p n
  | .supportTicket tripId userId => match tripId.bind Trip.zone with
    | some ⟨some n⟩ => Within u (some n) ∨ Within u userId.home → HeldAt u p n
    | some ⟨none⟩ => Within u userId.home
    | none => FitsPlaces u p userId.home userId.home

/-- What the two halves ask of each other. -/
structure Matching (u : Account) (p : Permission) (row : Row) : Prop where
  /-- a row that sits nowhere is shown -/
  nowhere : nodeOf row = none → Seen u row
  /-- who is shown a row holds the permission where it sits -/
  held : ∀ n, nodeOf row = some n → Seen u row → HeldAt u p n
  /-- a row that sits where no list looks for it is shown to who holds the permission there -/
  elsewhere : ∀ n, nodeOf row = some n → some n ∉ scopePaths row → HeldAt u p n → Seen u row

lemma seen_iff_within {u : Account} {row : Row} {listed : Option GeoNode}
    (hpaths : scopePaths row = [listed]) (hunion : unscopedUnion row = false) :
    Seen u row ↔ Within u listed := by
  simp only [Seen, hunion, Bool.false_eq_true, false_or, Shows, hpaths, List.mem_singleton, Within]
  simp only [eq_comm]

lemma matching_iff {u : Account} {p : Permission} {row : Row} {listed checked : Option GeoNode}
    (hpaths : scopePaths row = [listed]) (hunion : unscopedUnion row = false)
    (hnode : nodeOf row = checked) : Matching u p row ↔ FitsPlaces u p listed checked := by
  have hseen := seen_iff_within (u := u) hpaths hunion
  cases checked with
  | none =>
      refine ⟨fun h => hseen.mp (h.nowhere hnode), fun h => ⟨fun _ => hseen.mpr h, ?_, ?_⟩⟩
      · intro n hn
        rw [hnode] at hn
        cases hn
      · intro n hn
        rw [hnode] at hn
        cases hn
  | some n =>
      constructor
      · intro h
        refine ⟨fun hw => h.held n hnode (hseen.mpr hw), fun hne hheld => hseen.mp ?_⟩
        refine h.elsewhere n hnode ?_ hheld
        rw [hpaths, List.mem_singleton]
        exact fun he => hne he.symm
      · rintro ⟨hheld, helse⟩
        refine ⟨fun hn => ?_, fun m hm hs => ?_, fun m hm hnot hh => ?_⟩
        · rw [hnode] at hn
          cases hn
        · rw [hnode, Option.some.injEq] at hm
          exact hm ▸ hheld (hseen.mp hs)
        · rw [hnode, Option.some.injEq] at hm
          subst hm
          refine hseen.mpr (helse ?_ hh)
          rintro rfl
          exact hnot (hpaths ▸ List.mem_singleton_self _)

/-- A row that is shown exactly when `P` holds, and whose node a list reaches. -/
lemma matching_iff_of_reached {u : Account} {p : Permission} {row : Row} {n : GeoNode} {P : Prop}
    (hseen : Seen u row ↔ P) (hnode : nodeOf row = some n) (hreached : some n ∈ scopePaths row) :
    Matching u p row ↔ (P → HeldAt u p n) := by
  refine ⟨fun h hP => h.held n hnode (hseen.mpr hP), fun h => ⟨fun hn => ?_, fun m hm hs => ?_,
    fun m hm hnot => ?_⟩⟩
  · rw [hnode] at hn
    cases hn
  · rw [hnode, Option.some.injEq] at hm
    exact hm ▸ h (hseen.mp hs)
  · rw [hnode, Option.some.injEq] at hm
    exact absurd (hm ▸ hreached) hnot

lemma matching_iff_of_nowhere {u : Account} {p : Permission} {row : Row} {P : Prop}
    (hseen : Seen u row ↔ P) (hnode : nodeOf row = none) : Matching u p row ↔ P := by
  refine ⟨fun h => hseen.mp (h.nowhere hnode), fun h => ⟨fun _ => hseen.mpr h, ?_, ?_⟩⟩
  · intro n hn
    rw [hnode] at hn
    cases hn
  · intro n hn
    rw [hnode] at hn
    cases hn

lemma Within.of_none {u : Account} {place : Option GeoNode} (h : Within u none) :
    Within u place := by
  obtain ⟨a, ha, hglobal | ⟨n, hn, -⟩⟩ := h
  · exact ⟨a, ha, .inl hglobal⟩
  · cases hn

lemma seen_iff_within_pair {u : Account} {row : Row} {listed listed' : Option GeoNode}
    (hpaths : scopePaths row = [listed, listed']) :
    Seen u row ↔ unscopedUnion row = true ∨ Within u listed ∨ Within u listed' := by
  rw [Seen]
  refine or_congr Iff.rfl ?_
  constructor
  · rintro ⟨a, ha, hglobal | ⟨n, hn, hcovers⟩⟩
    · exact .inl ⟨a, ha, .inl hglobal⟩
    · rw [hpaths, List.mem_pair] at hn
      rcases hn with rfl | rfl
      · exact .inl ⟨a, ha, .inr ⟨n, rfl, hcovers⟩⟩
      · exact .inr ⟨a, ha, .inr ⟨n, rfl, hcovers⟩⟩
  · rintro (⟨a, ha, hglobal | ⟨n, hn, hcovers⟩⟩ | ⟨a, ha, hglobal | ⟨n, hn, hcovers⟩⟩)
    · exact ⟨a, ha, .inl hglobal⟩
    · exact ⟨a, ha, .inr ⟨n, by rw [hpaths, hn]; simp, hcovers⟩⟩
    · exact ⟨a, ha, .inl hglobal⟩
    · exact ⟨a, ha, .inr ⟨n, by rw [hpaths, hn]; simp, hcovers⟩⟩

/-- The halves match exactly where the scopes fit the anchors of the row. -/
theorem matching_iff_fits (u : Account) (p : Permission) (row : Row) :
    Matching u p row ↔ Fits u p row := by
  -- most rows are anchored by the one place their list is scoped by
  cases row with
  | trip t =>
      obtain ⟨rider, _ | z⟩ := t
      · exact matching_iff rfl rfl rfl
      · exact matching_iff rfl rfl rfl
  | driver d =>
      obtain ⟨_ | n⟩ := d
      · exact matching_iff rfl rfl rfl
      · exact matching_iff rfl rfl rfl
  | withdrawalRequest driver => exact matching_iff rfl rfl rfl
  | vehicle driverId => exact matching_iff rfl rfl rfl
  | payment tripId userId =>
      obtain ⟨rider, _ | z⟩ := tripId
      · exact matching_iff rfl rfl rfl
      · exact matching_iff rfl rfl rfl
  | transactionHistory tripId userId driverId =>
      obtain _ | ⟨rider, _ | z⟩ := tripId
      · exact matching_iff rfl rfl rfl
      · exact matching_iff rfl rfl rfl
      · exact matching_iff rfl rfl rfl
  | serviceZone z => exact matching_iff rfl rfl rfl
  | geoNode n => exact matching_iff rfl rfl rfl
  | rateCard zone => exact matching_iff rfl rfl rfl
  | serviceZoneRevision zone => exact matching_iff rfl rfl rfl
  | supplySample city => exact matching_iff rfl rfl rfl
  | notificationMessage city => exact matching_iff rfl rfl rfl
  | notificationTemplate geoNode =>
      cases geoNode with
      | none => exact matching_iff_of_nowhere (iff_true_intro (.inl rfl)) rfl
      | some n => exact matching_iff rfl rfl rfl
  | notificationCampaign geoNode => exact matching_iff rfl rfl rfl
  | promotionCampaign geoNode => exact matching_iff rfl rfl rfl
  | riskFlag anchorNode => exact matching_iff rfl rfl rfl
  | commissionRule geoNode => exact matching_iff rfl rfl rfl
  | sosEvent anchorNode source trip user =>
      -- the list of alarms adds those that no place could be found for
      have hseen : Seen u (.sosEvent anchorNode source trip user) ↔ _ := seen_iff_within_pair rfl
      rw [show unscopedUnion (.sosEvent anchorNode source trip user) =
        decide (source = .unanchored) from rfl, decide_eq_true_eq] at hseen
      cases anchorNode with
      | none =>
          refine matching_iff_of_nowhere (hseen.trans (or_congr Iff.rfl ?_)) rfl
          exact ⟨fun h => h.elim Within.of_none id, .inr⟩
      | some n => exact matching_iff_of_reached hseen rfl List.mem_cons_self
  | supportTicket tripId userId =>
      have hseen : Seen u (.supportTicket tripId userId) ↔ _ := seen_iff_within_pair rfl
      rw [show unscopedUnion (.supportTicket tripId userId) = false from rfl] at hseen
      simp only [Bool.false_eq_true, false_or] at hseen
      -- a ticket without a zone falls back to the city of the user who wrote it
      have hunzoned : tripId.bind Trip.zone = none →
          (Matching u p (.supportTicket tripId userId) ↔
            FitsPlaces u p userId.home userId.home) := by
        intro hzone
        have hnode : nodeOf (.supportTicket tripId userId) = userId.home := by
          simp [nodeOf, attributes, Attributes.node, hzone, User.home]
        have hplace : tripId.bind Trip.zoneNode = none := by
          rcases tripId with _ | ⟨rider, _ | z⟩
          · rfl
          · rfl
          · cases hzone
        rw [hplace] at hseen
        have hhome : Seen u (.supportTicket tripId userId) ↔ Within u userId.home :=
          hseen.trans ⟨fun h => h.elim Within.of_none id, .inr⟩
        cases hcity : userId.home with
        | none =>
            rw [hcity] at hnode hhome
            exact matching_iff_of_nowhere hhome hnode
        | some n =>
            rw [hcity] at hnode hhome
            have hreached : some n ∈ scopePaths (.supportTicket tripId userId) := by
              rw [← hcity]
              exact List.mem_cons_of_mem _ (List.mem_singleton_self _)
            refine (matching_iff_of_reached hhome hnode hreached).trans ?_
            exact ⟨fun h => ⟨h, fun hne => absurd rfl hne⟩, And.left⟩
      rcases tripId with _ | ⟨rider, _ | ⟨_ | n⟩⟩
      · exact hunzoned rfl
      · exact hunzoned rfl
      · exact matching_iff_of_nowhere (hseen.trans ⟨fun h => h.elim Within.of_none id, .inr⟩) rfl
      · exact matching_iff_of_reached hseen rfl List.mem_cons_self

lemma isMigrated_iff {u : Account} : isMigrated u = true ↔ activeAssignments u ≠ [] := by
  simp [isMigrated]

lemma HeldAt.heldSomewhere {u : Account} {p : Permission} {n : GeoNode} (h : HeldAt u p n) :
    HeldSomewhere u p := by
  obtain ⟨a, ha, hp, -⟩ := h
  exact ⟨a, ha, hp⟩

/-- A role over a node that a list reaches shows the row. -/
lemma HeldAt.seen {u : Account} {p : Permission} {n : GeoNode} {row : Row} (h : HeldAt u p n)
    (hn : some n ∈ scopePaths row) : Seen u row := by
  obtain ⟨a, ha, -, hcovers⟩ := h
  exact .inr ⟨a, ha, .inr ⟨n, hn, hcovers⟩⟩

lemma hasPermissionAt_none {u : Account} (hsuper : u.isSuperuser = false) (p : Permission) :
    hasPermissionAt u p none = true ↔ HeldSomewhere u p := by
  simp [hasPermissionAt, permissionsAt, hsuper, HeldSomewhere]

lemma hasPermissionAt_some {u : Account} (hsuper : u.isSuperuser = false) (p : Permission)
    (n : GeoNode) : hasPermissionAt u p (some n) = true ↔ HeldAt u p n := by
  simp [hasPermissionAt, permissionsAt, hsuper, HeldAt, and_assoc, and_comm]

lemma hasPermissionAt_superuser {u : Account} (hsuper : u.isSuperuser = true) (p : Permission)
    (node : Option GeoNode) : hasPermissionAt u p node = true := by
  simp [hasPermissionAt, permissionsAt, hsuper, p.known]

/-- An account that holds an assignment has what its roles grant, and nothing else. -/
lemma granted_iff {u : Account} (hm : isMigrated u = true) (strict : Bool) (p : Permission)
    (node : Option GeoNode) :
    (granted strict u p node).1 = true ↔
      isOperator u = true ∧ hasPermissionAt u p node = true := by
  by_cases hop : isOperator u = true
  · by_cases hp : hasPermissionAt u p node = true
    · simp [granted, hop, hp]
    · by_cases hs : strict = true
      · simp [granted, hop, hp, hs]
      · simp [granted, hop, hp, hs, hm]
  · simp [granted, hop]

/-- What `scoped` leaves to an account that is no superuser. -/
lemma scopeQueryset_iff {u : Account} (hsuper : u.isSuperuser = false)
    (hm : isMigrated u = true) (row : Row) : scopeQueryset u row = true ↔ Seen u row := by
  have hne := isMigrated_iff.mp hm
  by_cases hglobal : ∃ a ∈ activeAssignments u, a.scope.kind = .global
  · have hpaths : scopePathsOf u = none := by
      simpa [scopePathsOf, hsuper] using hglobal
    obtain ⟨a, ha, hkind⟩ := hglobal
    simp only [scopeQueryset, hpaths, true_iff]
    exact .inr ⟨a, ha, .inl hkind⟩
  · have hpaths : scopePathsOf u = some ((activeAssignments u).map fun a => a.scope.path) := by
      simpa [scopePathsOf, hsuper] using hglobal
    have hcons : (activeAssignments u).map (fun a => a.scope.path) ≠ [] := by
      simpa using hne
    have hq : scopeQueryset u row = (((activeAssignments u).map fun a => a.scope.path).any
        (fun path => (scopePaths row).any fun node =>
          node.any fun n => path.toList.isPrefixOf n.path.toList) || unscopedUnion row) := by
      obtain ⟨path, rest, hlist⟩ := List.exists_cons_of_ne_nil hcons
      simp only [scopeQueryset, hpaths, hlist]
    rw [hq, Bool.or_eq_true, List.any_eq_true]
    constructor
    · rintro (⟨path, hpath, hany⟩ | halso)
      · obtain ⟨a, ha, rfl⟩ := List.mem_map.mp hpath
        obtain ⟨node, hnode, hcovers⟩ := List.any_eq_true.mp hany
        match node with
        | none => cases hcovers
        | some n => exact .inr ⟨a, ha, .inr ⟨n, hnode, hcovers⟩⟩
      · exact .inl halso
    · rintro (halso | ⟨a, ha, hkind | ⟨n, hn, hcovers⟩⟩)
      · exact .inr halso
      · exact absurd ⟨a, ha, hkind⟩ hglobal
      · refine .inl ⟨a.scope.path, List.mem_map.mpr ⟨a, ha, rfl⟩, ?_⟩
        refine List.any_eq_true.mpr ⟨some n, hn, ?_⟩
        exact hcovers

/-- The list and the check, for an account that is an operator and no superuser. -/
lemma served_iff {u : Account} (hop : isOperator u = true) (hsuper : u.isSuperuser = false)
    (hm : isMigrated u = true) (strict : Bool) (p : Permission) (row : Row) :
    served strict u p row = true ↔ HeldSomewhere u p ∧ Seen u row := by
  rw [served, Bool.and_eq_true, granted_iff hm, hasPermissionAt_none hsuper]
  simp [hop, scopedTo, hm, scopeQueryset_iff hsuper hm]

lemma agree_iff_matching {u : Account} (hop : isOperator u = true) (hsuper : u.isSuperuser = false)
    (hm : isMigrated u = true) (strict : Bool) (p : Permission) (row : Row) :
    (served strict u p row = true ↔ hasObjectPermission strict u p row = true) ↔
      (HeldSomewhere u p → Matching u p row) := by
  rw [served_iff hop hsuper hm, hasObjectPermission, granted_iff hm]
  simp only [hop, true_and]
  match hnode : nodeOf row with
  | none =>
      rw [hasPermissionAt_none hsuper]
      constructor
      · intro h hp
        exact ⟨fun _ => (h.mpr hp).2, fun n hn => by simp [hnode] at hn,
          fun n hn => by simp [hnode] at hn⟩
      · intro h
        exact ⟨fun hs => hs.1, fun hp => ⟨hp, (h hp).nowhere hnode⟩⟩
  | some n =>
      rw [hasPermissionAt_some hsuper]
      constructor
      · intro h hp
        refine ⟨fun hn => by simp [hnode] at hn, ?_, ?_⟩
        · intro n' hn' hseen
          obtain rfl : n = n' := Option.some.inj (hnode.symm.trans hn')
          exact h.mp ⟨hp, hseen⟩
        · intro n' hn' _ hheld
          obtain rfl : n = n' := Option.some.inj (hnode.symm.trans hn')
          exact (h.mpr hheld).2
      · intro h
        constructor
        · rintro ⟨hp, hseen⟩
          exact (h hp).held n hnode hseen
        · intro hheld
          have hp := hheld.heldSomewhere
          by_cases hn : some n ∈ scopePaths row
          · exact ⟨hp, hheld.seen hn⟩
          · exact ⟨hp, (h hp).elsewhere n hnode hn hheld⟩

/-- For every account that holds an assignment, every permission and every row: the list serves
the row exactly when the check of the row allows it, if and only if the account is no operator or
a superuser, holds the permission nowhere, or has scopes that fit the anchors of the row. -/
theorem list_agrees_iff (strict : Bool) (u : Account) (p : Permission) (row : Row)
    (hm : isMigrated u = true) :
    ((served strict u p row = true ↔ hasObjectPermission strict u p row = true) ∧
        inScope strict u p row = hasObjectPermission strict u p row) ↔
      (isOperator u = true → u.isSuperuser = false → HeldSomewhere u p → Fits u p row) := by
  have hin : inScope strict u p row = hasObjectPermission strict u p row := by
    simp [inScope, hasObjectPermission, hm]
  simp only [hin, and_true]
  by_cases hop : isOperator u = true
  · by_cases hsuper : u.isSuperuser = true
    · have hserved : served strict u p row = true := by
        rw [served, Bool.and_eq_true, granted_iff hm]
        refine ⟨⟨hop, hasPermissionAt_superuser hsuper p none⟩, ?_⟩
        simp [scopedTo, hm, scopeQueryset, scopePathsOf, hsuper]
      have hcheck : hasObjectPermission strict u p row = true := by
        rw [hasObjectPermission, granted_iff hm]
        exact ⟨hop, hasPermissionAt_superuser hsuper p _⟩
      simp [hserved, hcheck, hsuper]
    · have hsuper' : u.isSuperuser = false := by simpa using hsuper
      rw [agree_iff_matching hop hsuper' hm, matching_iff_fits]
      simp [hop, hsuper']
  · have hserved : ¬ served strict u p row = true := by
      rw [served, Bool.and_eq_true, granted_iff hm]
      exact fun h => hop h.1.1
    have hcheck : ¬ hasObjectPermission strict u p row = true := by
      rw [hasObjectPermission, granted_iff hm]
      exact fun h => hop h.1
    simp [hserved, hcheck, hop]

/-! ## Two roles in two countries -/

def indiaNode : GeoNode := ⟨2, .country, "IN", "India", some 1, "GLOBAL/IN/", .active⟩

def usNode : GeoNode := ⟨3, .country, "US", "United States", some 1, "GLOBAL/US/", .active⟩

/-- Reads trips in India and the ledger in the United States. -/
def twoCountries : Account where
  isAuthenticated := true
  isSuperuser := false
  isStaff := true
  role := "admin"
  opsRole := ""
  assignments :=
    [⟨⟨["trip.read", "driver.read"], true⟩, indiaNode, true⟩,
      ⟨⟨["finance.read"], true⟩, usNode, true⟩]

def tripRead : Permission := ⟨"trip.read", by decide +kernel⟩

def tripIn (zone : Option ServiceZone) : Row := .trip ⟨⟨none⟩, zone⟩

/-- A trip in India is listed to who reads trips there, and the check allows it. -/
theorem list_agrees_in_india :
    (served false twoCountries tripRead (tripIn (some ⟨some indiaNode⟩)) = true ↔
        hasObjectPermission false twoCountries tripRead (tripIn (some ⟨some indiaNode⟩)) = true) ∧
      inScope false twoCountries tripRead (tripIn (some ⟨some indiaNode⟩)) =
        hasObjectPermission false twoCountries tripRead (tripIn (some ⟨some indiaNode⟩)) := by
  refine (list_agrees_iff false twoCountries tripRead (tripIn (some ⟨some indiaNode⟩))
    (by decide +kernel)).mpr fun _ _ _ => ⟨fun _ => ?_, fun hne => absurd rfl hne⟩
  exact ⟨_, List.mem_cons_self, by decide +kernel, by decide +kernel⟩

/-- The list serves a trip in the United States that the check refuses, and the check allows a
trip without a zone that the list does not serve. -/
theorem list_and_check_differ :
    isMigrated twoCountries = true ∧
      served false twoCountries tripRead (tripIn (some ⟨some usNode⟩)) = true ∧
      hasObjectPermission false twoCountries tripRead (tripIn (some ⟨some usNode⟩)) = false ∧
      served false twoCountries tripRead (tripIn none) = false ∧
      hasObjectPermission false twoCountries tripRead (tripIn none) = true := by
  decide +kernel

end SaaradhiGo.AdminAccess.Scoping
