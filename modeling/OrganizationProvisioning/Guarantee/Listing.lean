/-
**A walk through the list loses and repeats nothing.**

* `Becomes` — what any transactions make of a store.
* `Walks` — list calls that follow one another, each with the cursor the one before returned.
* `list_walk` — the items of a walk descend strictly and are the actor's own; an ended walk has each saga that
  matched throughout once; there is no next cursor exactly when nothing further matched. Over an unchanging
  store whose matching sagas have instants with texts, every choice of limits ends with exactly these sagas.
* `list_walk_undated` — a saga updated before the year 0 fails the page it is on.
-/
import OrganizationProvisioning.Proof.Listing
import OrganizationProvisioning.Run.Persist
import OrganizationProvisioning.Saga.Instants
import OrganizationProvisioning.Run.Script

namespace OrganizationProvisioning

open Relational

/-! ### Walks -/

/-- What committed transactions make of a store, whatever their programs. -/
inductive Becomes : Store → Store → Prop
  | refl (store : Store) : Becomes store store
  | commit {α : Type} {program : Transaction α} {store middle final : Store} {reply : α}
      (earlier : Becomes store middle) (committed : postgres.Commits program middle reply final) :
      Becomes store final

theorem Becomes.persist {before after : Store} (becomes : Becomes before after) : Persist before after := by
  induction becomes with
  | refl => exact .refl _
  | commit _ committed ih => exact ih.trans (.of_commits committed)

/-- One page of a walk. -/
structure Visit where
  store : Store
  limit : Int
  response : ListResponse

section Walks

variable (readers : Readers) (actor : String) (status : Option String)

/-- The page is what the handler returns for a cursor. -/
def Visit.Served (cursor : Option String) (visit : Visit) : Prop :=
  PostgresOrganizationProvisioningPlugin.list readers actor ⟨cursor, visit.limit, status⟩ visit.store =
    .ok visit.response

/-- **List calls that follow one another**, each with the cursor the one before returned. -/
inductive Walks : Option String → List Visit → Option String → Prop
  | last {cursor next : Option String} {visit : Visit} (served : visit.Served readers actor status cursor)
      (ends : visit.response.nextCursor = next) : Walks cursor [visit] next
  | step {cursor next : Option String} {text : String} {visit : Visit} {visits : List Visit}
      (served : visit.Served readers actor status cursor)
      (more : visit.response.nextCursor = some text) (rest : Walks (some text) visits next) :
      Walks cursor (visit :: visits) next

end Walks

/-- The items of a walk. -/
def walkedItems (visits : List Visit) : List ProvisioningListItem :=
  visits.flatMap fun visit => visit.response.items

section Pages

variable {readers : Readers} {actor : String} {status : Option String} {cursor next : Option String}
  {visits : List Visit}

/-- The pages of a walk, by their keys. -/
def keyPages (actor : String) (status : Option String) (visits : List Visit) :
    List (Set (Lex (Timestamp × Uuid)) × List (Lex (Timestamp × Uuid))) :=
  visits.map fun visit => (matching actor status visit.store,
    visit.response.items.map ProvisioningListItem.listKey)

theorem walked_keyPages : Keyset.walked (keyPages actor status visits) =
    (walkedItems visits).map ProvisioningListItem.listKey := by
  unfold Keyset.walked keyPages walkedItems
  rw [List.flatMap_map, List.map_flatMap]

/-- **A walk is one of keys**, and every item shows a matching saga of its page's store. -/
theorem Walks.keyset (documented : readers.Documented) (walks : Walks readers actor status cursor visits next) :
    (∃ after final, requestedCursor readers cursor = some after ∧
      requestedCursor readers next = some final ∧
      Keyset.Walk (after.map PageCursor.listKey) (keyPages actor status visits)
        (final.map PageCursor.listKey)) ∧
    ∀ visit ∈ visits, ∀ item ∈ visit.response.items, Lists actor status visit.store item := by
  induction walks with
  | last served ends =>
    subst ends
    obtain ⟨after, final, here, there, lists, page⟩ := list_page documented served
    refine ⟨⟨after, final, here, there, .last page⟩, fun visit member => ?_⟩
    rw [List.mem_singleton.mp member]
    exact lists
  | step served more rest ih =>
    obtain ⟨after, final, here, there, lists, page⟩ := list_page documented served
    obtain ⟨⟨middle, last, between, ends, walk⟩, others⟩ := ih
    rw [more, between] at there
    cases there
    obtain ⟨middle, decoded, rfl⟩ := Option.map_eq_some_iff.mp between
    refine ⟨⟨after, last, here, ends, .step page walk⟩, fun visit member => ?_⟩
    rcases List.mem_cons.mp member with rfl | later
    · exact lists
    · exact others visit later

end Pages

/-! ### What a walk returns -/

section Walked

variable {readers : Readers} {actor : String} {status : Option String} {visits : List Visit}
  {next : Option String}

/-- Items with one id show one key: what a saga is ordered by was fixed when it was inserted. -/
theorem Lists.listKey_eq {before after : Store} {one two : ProvisioningListItem}
    (first : Lists actor status before one) (second : Lists actor status after two)
    (becomes : Becomes before after) (same : one.provisioningId = two.provisioningId) :
    one.listKey = two.listKey := by
  obtain ⟨row, stored, -, shown⟩ := first
  obtain ⟨row', stored', -, shown'⟩ := second
  obtain ⟨-, id, key⟩ := listItemFromRow_some shown
  obtain ⟨-, id', key'⟩ := listItemFromRow_some shown'
  have found : before.saga row.provisioningId = some row := Table.find_of_mem stored
  have found' : after.saga row.provisioningId = some row' := by
    rw [← id, same, id']
    exact Table.find_of_mem stored'
  obtain ⟨row'', there, kept⟩ := becomes.persist.sagas _ row found
  rw [found'] at there
  cases there
  rw [key, key']
  unfold SagaRow.listKey
  rw [show row'.createdAt = row.createdAt from congrArg SagaIntent.createdAt kept,
    show row'.provisioningId = row.provisioningId from congrArg SagaIntent.provisioningId kept]

/-- **No saga is returned twice.** -/
theorem Walks.nodup (documented : readers.Documented) (walks : Walks readers actor status none visits next)
    (becomes : visits.Pairwise fun earlier later => Becomes earlier.store later.store) :
    ((walkedItems visits).map fun item => item.provisioningId).Nodup := by
  obtain ⟨⟨after, final, -, -, walk⟩, lists⟩ := walks.keyset documented
  have sorted := walk.sorted
  rw [walked_keyPages, List.pairwise_map] at sorted
  have related : (walkedItems visits).Pairwise fun one two =>
      one.provisioningId = two.provisioningId → one.listKey = two.listKey := by
    unfold walkedItems
    rw [List.pairwise_flatMap]
    refine ⟨fun visit member => ?_, ?_⟩
    · rw [List.pairwise_iff_forall_sublist]
      intro one two pair same
      exact (lists visit member one (pair.subset (by simp))).listKey_eq
        (lists visit member two (pair.subset (by simp))) (.refl _) same
    · refine List.Pairwise.imp_of_mem (fun {earlier later} one two becomes => ?_) becomes
      intro item here other there same
      exact (lists earlier one item here).listKey_eq (lists later two other there) becomes same
  rw [List.Nodup, List.pairwise_map]
  refine (sorted.and related).imp fun both same => ?_
  exact absurd (both.2 same) (ne_of_gt both.1)

/-- **A saga that matched throughout is returned**, by a walk that ended. -/
theorem Walks.returns (documented : readers.Documented) (walks : Walks readers actor status none visits none)
    (becomes : visits.Pairwise fun earlier later => Becomes earlier.store later.store) {id : Uuid}
    (throughout : ∀ visit ∈ visits, ∃ row, visit.store.saga id = some row ∧
      ListFilters.selects actor status row = true) :
    id ∈ (walkedItems visits).map fun item => item.provisioningId := by
  obtain ⟨⟨after, final, started, ended, walk⟩, lists⟩ := walks.keyset documented
  cases started
  cases ended
  have nonempty : ∃ first rest, visits = first :: rest := by
    cases walks with
    | last => exact ⟨_, _, rfl⟩
    | step => exact ⟨_, _, rfl⟩
  obtain ⟨first, rest, rfl⟩ := nonempty
  obtain ⟨row, found, selected⟩ := throughout first List.mem_cons_self
  have keyed : ∀ visit ∈ first :: rest, row.listKey ∈ matching actor status visit.store := by
    intro visit member
    obtain ⟨row', found', selected'⟩ := throughout visit member
    have becomes : Becomes first.store visit.store := by
      rcases List.mem_cons.mp member with rfl | later
      · exact .refl _
      · exact (List.pairwise_cons.mp becomes).1 visit later
    obtain ⟨row'', there, kept⟩ := becomes.persist.sagas _ row found
    rw [found'] at there
    cases there
    refine ⟨row', Table.mem_of_find found', selected', ?_⟩
    unfold SagaRow.listKey
    rw [show row'.createdAt = row.createdAt from congrArg SagaIntent.createdAt kept,
      show row'.provisioningId = row.provisioningId from congrArg SagaIntent.provisioningId kept]
  have covered := walk.covers Keyset.below_none fun page member => by
    obtain ⟨visit, listed, rfl⟩ := List.mem_map.mp member
    exact keyed visit listed
  have listed := covered.resolve_right fun beyond => by
    obtain ⟨cursor, impossible, -⟩ := beyond
    cases impossible
  rw [walked_keyPages] at listed
  obtain ⟨item, member, key⟩ := List.mem_map.mp listed
  refine List.mem_map.mpr ⟨item, member, ?_⟩
  have same : item.provisioningId = row.provisioningId := congrArg (fun key => (ofLex key).2) key
  have owner : row.provisioningId = id := @Table.key_of_find _ _ _ _ first.store.sagas id row found
  exact same.trans owner

/-- **There is no next cursor exactly when nothing further matches.** -/
theorem ends_iff (documented : readers.Documented) {request : ListRequest} {store : Store}
    {response : ListResponse} {cursor : Option PageCursor}
    (requested : requestedCursor readers request.cursor = some cursor)
    (served : PostgresOrganizationProvisioningPlugin.list readers actor request store = .ok response) :
    response.nextCursor = none ↔ ∀ row ∈ store.sagas.rows,
      ListFilters.selects actor request.status row = true → ListFilters.passes cursor row = true →
        row.provisioningId ∈ response.items.map fun item => item.provisioningId := by
  obtain ⟨cursor', next, here, there, lists, page⟩ := list_page documented served
  rw [requested] at here
  cases here
  have ended : response.nextCursor = none ↔ next.map PageCursor.listKey = none := by
    cases shape : response.nextCursor with
    | none =>
      rw [shape] at there
      cases there
      exact iff_of_true rfl rfl
    | some text =>
      rw [shape] at there
      obtain ⟨last, -, rfl⟩ := Option.map_eq_some_iff.mp there
      exact iff_of_false (by simp) (by simp)
  rw [ended, page.ends_iff]
  constructor
  · intro all row stored selected passed
    obtain ⟨item, listed, key⟩ := List.mem_map.mp
      (all row.listKey ⟨row, stored, selected, rfl⟩ (passes_iff.mp passed))
    exact List.mem_map.mpr ⟨item, listed, congrArg (fun key => (ofLex key).2) key⟩
  · rintro all key ⟨row, stored, selected, rfl⟩ below
    obtain ⟨item, listed, id⟩ := List.mem_map.mp (all row stored selected (passes_iff.mpr below))
    obtain ⟨row', stored', -, shown⟩ := lists item listed
    obtain ⟨-, id', key⟩ := listItemFromRow_some shown
    have same : row' = row := store.sagas.eq_of_key stored' stored (id'.symm.trans id)
    rw [← same, ← key]
    exact List.mem_map_of_mem listed

end Walked

/-! ### Walks over an unchanging store -/

section Unchanging

variable {readers : Readers} {actor : String} {status : Option String} {store : Store}

/-- The sagas a list is about can be shown. -/
def Showable (actor : String) (status : Option String) (store : Store) : Prop :=
  ∀ row ∈ store.sagas.rows, ListFilters.selects actor status row = true →
    row.createdAt.Formats ∧ row.updatedAt.Formats

theorem exists_items {rows : List SagaRow}
    (formats : ∀ row ∈ rows, row.createdAt.Formats ∧ row.updatedAt.Formats) :
    ∃ items, rows.mapM listItemFromRow = some items := by
  induction rows with
  | nil => exact ⟨[], rfl⟩
  | cons row rows ih =>
    obtain ⟨items, rest⟩ := ih fun other member => formats other (List.mem_cons_of_mem _ member)
    obtain ⟨created, createdText⟩ := Option.isSome_iff_exists.mp (formats row List.mem_cons_self).1
    obtain ⟨updated, updatedText⟩ := Option.isSome_iff_exists.mp (formats row List.mem_cons_self).2
    have here : ∃ item, listItemFromRow row = some item := by
      unfold listItemFromRow
      rw [createdText, updatedText]
      exact ⟨_, rfl⟩
    obtain ⟨item, here⟩ := here
    refine ⟨item :: items, ?_⟩
    rw [List.mapM_cons, here, rest]
    rfl

/-- **A page of sagas that can be shown is returned**, for a valid status and a limit in the bounds. -/
theorem exists_page (documented : readers.Documented) (showable : Showable actor status store)
    (valid : ∀ name, status = some name → validStatus name = true) {text : Option String}
    {cursor : Option PageCursor} (requested : requestedCursor readers text = some cursor) {limit : Int}
    (low : 1 ≤ limit) (high : limit ≤ 100) :
    ∃ response, PostgresOrganizationProvisioningPlugin.list readers actor ⟨text, limit, status⟩ store =
      .ok response := by
  obtain ⟨items, shown⟩ := @exists_items
    (ListFilters.rows ⟨actor, status, cursor, limit + 1⟩ store) fun row member => by
      obtain ⟨stored, selected, -⟩ := mem_all.mp (List.mem_of_mem_take member)
      exact showable row stored selected
  have paged : ∃ response, pageOf readers limit items = .ok response := by
    unfold pageOf
    split
    · split
      · exact ⟨_, rfl⟩
      · rename_i item last
        have member := List.mem_of_mem_take (List.mem_of_getLast? last)
        obtain ⟨row, -, shows⟩ := (mapM_listItemFromRow shown).2 item member
        obtain ⟨formatted, -, -⟩ := listItemFromRow_some shows
        rw [encodeCursor_eq documented formatted]
        exact ⟨_, rfl⟩
    · exact ⟨_, rfl⟩
  obtain ⟨response, page⟩ := paged
  have listed : OrganizationProvisioning.list ⟨actor, status, cursor, limit + 1⟩ store = .ok items := by
    unfold OrganizationProvisioning.list
    rw [shown]
  refine ⟨response, ?_⟩
  have accepted : ¬ (¬ (1 ≤ limit ∧ limit ≤ 100) ∨ (status.any fun value => !validStatus value) = true) := by
    rintro (wide | unknown)
    · exact wide ⟨low, high⟩
    · obtain ⟨name, same, invalid⟩ := (Option.any_eq_true ..).mp unknown
      rw [valid name same] at invalid
      cases invalid
  unfold PostgresOrganizationProvisioningPlugin.list
  rw [if_neg accepted]
  simp only [requested, listed]
  show (pageOf readers limit items).mapError _ = _
  rw [page]
  rfl

/-- The keys of the matching sagas, downwards. -/
def matchingKeys (actor : String) (status : Option String) (store : Store) : List (Lex (Timestamp × Uuid)) :=
  (ListFilters.all ⟨actor, status, none, 0⟩ store).map SagaRow.listKey

theorem mem_matchingKeys {key : Lex (Timestamp × Uuid)} :
    key ∈ matchingKeys actor status store ↔ key ∈ matching actor status store := by
  unfold matchingKeys
  rw [@mem_all_listKey ⟨actor, status, none, 0⟩ store key]
  exact and_iff_left Keyset.below_none

/-- **A walk over an unchanging store ends**, whatever the limits: each page leaves less than there was. -/
theorem exists_walk (documented : readers.Documented) (showable : Showable actor status store)
    (valid : ∀ name, status = some name → validStatus name = true) {limits : Nat → Int}
    (bounded : ∀ page, 1 ≤ limits page ∧ limits page ≤ 100) {text : Option String}
    {cursor : Option PageCursor} (requested : requestedCursor readers text = some cursor) :
    ∃ visits, Walks readers actor status text visits none ∧ (∀ visit ∈ visits, visit.store = store) ∧
      visits.map Visit.limit = (List.range visits.length).map limits := by
  generalize size : (Keyset.remaining (matchingKeys actor status store)
    (cursor.map PageCursor.listKey)).length = left
  induction left using Nat.strongRecOn generalizing limits text cursor with
  | ind left ih =>
    obtain ⟨response, served⟩ := exists_page documented showable valid requested (bounded 0).1 (bounded 0).2
    obtain ⟨cursor', next, here, there, -, page⟩ := list_page documented served
    rw [requested] at here
    cases here
    cases shape : response.nextCursor with
    | none =>
      refine ⟨[⟨store, limits 0, response⟩], .last served shape, ?_, rfl⟩
      intro visit member
      rw [List.mem_singleton.mp member]
    | some text' =>
      rw [shape] at there
      obtain ⟨next, decoded, rfl⟩ := Option.map_eq_some_iff.mp there
      have fewer := Keyset.Page.remaining_lt (fun key => mem_matchingKeys) page
      rw [size] at fewer
      obtain ⟨visits, walk, same, chosen⟩ := @ih _ fewer (fun page => limits (page + 1))
        (fun page => bounded (page + 1)) (some text') (some next) there rfl
      refine ⟨⟨store, limits 0, response⟩ :: visits, .step served shape walk, ?_, ?_⟩
      · intro visit member
        rcases List.mem_cons.mp member with rfl | later
        · rfl
        · exact same visit later
      · rw [List.map_cons, chosen, List.length_cons, List.range_succ_eq_map, List.map_cons, List.map_map]
        rfl

/-- The items of an ended walk over an unchanging store are the matching sagas, each once. -/
theorem Walks.exhausts (documented : readers.Documented) {visits : List Visit}
    (walks : Walks readers actor status none visits none) (unchanged : ∀ visit ∈ visits, visit.store = store) :
    (walkedItems visits).map ProvisioningListItem.listKey = matchingKeys actor status store := by
  obtain ⟨⟨after, final, started, ended, walk⟩, -⟩ := walks.keyset documented
  cases started
  cases ended
  rw [← walked_keyPages]
  refine walk.exhausts (fun page member => ?_) all_sorted fun key => mem_matchingKeys
  obtain ⟨visit, listed, rfl⟩ := List.mem_map.mp member
  show matching actor status visit.store = _
  rw [unchanged visit listed]

/-- Items whose keys are those of rows, each the item of a row of the store, are the items of the rows. -/
theorem mapM_of_keys {rows : List SagaRow} {items : List ProvisioningListItem}
    (stored : ∀ row ∈ rows, row ∈ store.sagas.rows)
    (keys : items.map ProvisioningListItem.listKey = rows.map SagaRow.listKey)
    (lists : ∀ item ∈ items, Lists actor status store item) : rows.mapM listItemFromRow = some items := by
  induction rows generalizing items with
  | nil =>
    rw [List.map_nil, List.map_eq_nil_iff] at keys
    rw [keys]
    rfl
  | cons row rows ih =>
    cases items with
    | nil => cases keys
    | cons item items =>
      rw [List.map_cons, List.map_cons, List.cons.injEq] at keys
      obtain ⟨row', stored', -, shown⟩ := lists item List.mem_cons_self
      have same : row' = row := by
        refine store.sagas.eq_of_key stored' (stored row List.mem_cons_self) ?_
        have key := (listItemFromRow_some shown).2.2.symm.trans keys.1
        exact congrArg (fun key => (ofLex key).2) key
      rw [same] at shown
      rw [List.mapM_cons, shown, ih (fun other member => stored other (List.mem_cons_of_mem _ member))
        keys.2 fun other member => lists other (List.mem_cons_of_mem _ member)]
      rfl

end Unchanging

/-! ### The guarantee -/

/-- **A walk through the list loses and repeats nothing.** -/
theorem list_walk (readers : Readers) (documented : readers.Documented) (actor : String)
    (status : Option String) :
    (∀ (visits : List Visit) (next : Option String), Walks readers actor status none visits next →
      (visits.Pairwise fun earlier later => Becomes earlier.store later.store) →
      ((walkedItems visits).Pairwise fun one two => one.listKey > two.listKey) ∧
      ((walkedItems visits).map fun item => item.provisioningId).Nodup ∧
      (∀ visit ∈ visits, ∀ item ∈ visit.response.items, ∃ row ∈ visit.store.sagas.rows,
        row.requestedBy = actor ∧ ListFilters.selects actor status row = true ∧
          listItemFromRow row = some item) ∧
      (next = none → ∀ id : Uuid, (∀ visit ∈ visits, ∃ row, visit.store.saga id = some row ∧
        ListFilters.selects actor status row = true) →
          ((walkedItems visits).map fun item => item.provisioningId).count id = 1)) ∧
    (∀ (request : ListRequest) (store : Store) (response : ListResponse) (cursor : Option PageCursor),
      requestedCursor readers request.cursor = some cursor →
      PostgresOrganizationProvisioningPlugin.list readers actor request store = .ok response →
      (response.nextCursor = none ↔ ∀ row ∈ store.sagas.rows,
        ListFilters.selects actor request.status row = true → ListFilters.passes cursor row = true →
          row.provisioningId ∈ response.items.map fun item => item.provisioningId)) ∧
    ∀ (store : Store) (limits : Nat → Int), (∀ page, 1 ≤ limits page ∧ limits page ≤ 100) →
      (∀ name, status = some name → validStatus name = true) → Showable actor status store →
      ∃ visits, Walks readers actor status none visits none ∧ (∀ visit ∈ visits, visit.store = store) ∧
        visits.map Visit.limit = (List.range visits.length).map limits ∧
        (orderBy listOrder (store.sagas.rows.filter (ListFilters.selects actor status))).mapM
          listItemFromRow = some (walkedItems visits) := by
  refine ⟨?_, ?_, ?_⟩
  · intro visits next walks becomes
    obtain ⟨⟨after, final, -, -, walk⟩, lists⟩ := walks.keyset documented
    have sorted := walk.sorted
    rw [walked_keyPages, List.pairwise_map] at sorted
    have nodup := walks.nodup documented becomes
    refine ⟨sorted, nodup, fun visit member item listed => ?_, ?_⟩
    · obtain ⟨row, stored, selected, shown⟩ := lists visit member item listed
      exact ⟨row, stored, of_decide_eq_true (Bool.and_eq_true_iff.mp selected).1, selected, shown⟩
    · rintro rfl id throughout
      exact List.count_eq_one_of_mem nodup (walks.returns documented becomes throughout)
  · intro request store response cursor requested served
    exact ends_iff documented requested served
  · intro store limits bounded valid showable
    obtain ⟨visits, walks, unchanged, chosen⟩ :=
      exists_walk documented showable valid bounded (rfl : requestedCursor readers none = some none)
    refine ⟨visits, walks, unchanged, chosen, ?_⟩
    have keys := walks.exhausts documented unchanged
    have lists := (walks.keyset documented).2
    have all : orderBy listOrder (store.sagas.rows.filter (ListFilters.selects actor status)) =
        ListFilters.all ⟨actor, status, none, 0⟩ store := by
      unfold ListFilters.all ListFilters.passes
      simp only [Option.all_none, Bool.and_true]
    rw [all]
    refine @mapM_of_keys actor status store _ _ (fun row member => (mem_all.mp member).1) keys fun item member => ?_
    obtain ⟨visit, visited, listed⟩ := List.mem_flatMap.mp member
    rw [← unchanged visit visited]
    exact lists visit visited item listed

/-- The rehearsed saga, walked page by page. -/
theorem list_walk_rehearsed : ∃ visits, Walks utcReaders "operator" none none visits none ∧
    (∀ visit ∈ visits, visit.store = Rehearsal.store) ∧
    visits.map Visit.limit = (List.range visits.length).map (fun _ => 1) ∧
    (orderBy listOrder (Rehearsal.store.sagas.rows.filter (ListFilters.selects "operator" none))).mapM
      listItemFromRow = some (walkedItems visits) :=
  (list_walk utcReaders utcReaders_documented "operator" none).2.2 Rehearsal.store
    (fun _ => 1) (fun _ => by decide) (fun _ impossible => by cases impossible)
    (by unfold Showable; decide +kernel)

/-! ### Before the year 0 -/

/-- A saga whose effect is claimed a microsecond before the year 0. -/
def earlyScript : List Instruction := [
  .call (.start 0 Rehearsal.ids Rehearsal.input),
  .call (.claimNext (-62167219200000001) 1 "worker" 101 21 60)]

theorem early_run : Run (played earlyScript).1 (played earlyScript).2 :=
  run_of_played (by decide +kernel)

/-- **Before the year 0 a walk can fail on its first page**, whatever its limits. -/
theorem list_walk_undated : ¬ ∀ (history : List Committed) (store : Store), Run history store →
    ∀ (actor : String) (limits : Nat → Int), (∀ page, 1 ≤ limits page ∧ limits page ≤ 100) →
      ∃ visits, Walks utcReaders actor none none visits none ∧ ∀ visit ∈ visits, visit.store = store := by
  intro ends
  obtain ⟨visits, walks, unchanged⟩ := ends _ _ early_run "operator" (fun _ => 1) fun _ => by decide
  have fails : ∀ limit response, PostgresOrganizationProvisioningPlugin.list utcReaders "operator"
      ⟨none, limit, none⟩ (played earlyScript).2 ≠ .ok response := by
    intro limit response served
    have undated : (ListFilters.all ⟨"operator", none, none, limit + 1⟩ (played earlyScript).2).mapM
        listItemFromRow = none := by
      show (ListFilters.all ⟨"operator", none, none, 0⟩ (played earlyScript).2).mapM listItemFromRow = none
      decide +kernel
    have single : (ListFilters.all ⟨"operator", none, none, limit + 1⟩ (played earlyScript).2).length = 1 := by
      show (ListFilters.all ⟨"operator", none, none, 0⟩ (played earlyScript).2).length = 1
      decide +kernel
    unfold PostgresOrganizationProvisioningPlugin.list at served
    split at served
    · cases served
    rename_i accepted
    have limits : 1 ≤ limit ∧ limit ≤ 100 := not_not.mp (not_or.mp accepted).1
    have rows : ListFilters.rows ⟨"operator", none, none, limit + 1⟩ (played earlyScript).2 =
        ListFilters.all ⟨"operator", none, none, limit + 1⟩ (played earlyScript).2 := by
      exact List.take_of_length_le (single.trans_le (by show 1 ≤ (limit + 1).toNat; omega))
    simp only [requestedCursor, OrganizationProvisioning.list, rows, undated] at served
    cases served
  have first : ∃ limit response, PostgresOrganizationProvisioningPlugin.list utcReaders "operator"
      ⟨none, limit, none⟩ (played earlyScript).2 = .ok response := by
    cases walks with
    | @last _ _ visit served _ =>
      have here := unchanged visit List.mem_cons_self
      exact ⟨visit.limit, visit.response, by rw [← here]; exact served⟩
    | @step _ _ _ visit _ served _ _ =>
      have here := unchanged visit List.mem_cons_self
      exact ⟨visit.limit, visit.response, by rw [← here]; exact served⟩
  obtain ⟨limit, response, served⟩ := first
  exact fails limit response served

end OrganizationProvisioning
