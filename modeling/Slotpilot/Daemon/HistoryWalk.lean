import Slotpilot.Daemon.PublicStore

/-!
# Walking the history

A client reads the history in pages: it starts at 0, asks for the records after its cursor, and moves its cursor to the
cursor of the page, until a page says that there is no more. Meanwhile the store is written and pruned by others.

* `read_page`: a page is the records after the cursor, in order, and its cursor is the last of them;
* `walk_kept`: the invariant of a walk between any writes, prunes and reads;
* `history_walk`: the client sees every record that stays, once and in order, and its walk ends.
-/

set_option autoImplicit false

namespace Slotpilot.Daemon

open Lib Domain Audio Storage

/-- A client on its way through the history. -/
structure HistoryWalk where
  store : ReceiveStore
  cursor : UInt64
  seen : List Api.ReceiveRecordSummary
  done : Bool

namespace HistoryWalk

/-- A client that has read nothing of the store. -/
def start (store : ReceiveStore) : HistoryWalk where
  store
  cursor := 0
  seen := []
  done := false

/-- A call of the store by others, or a read of the client. -/
inductive Move
  | call (call : ReceiveStore.Call)
  | read

/-- One move, with the page that was read. -/
def step (sqlite : Sqlite) (limit : Nat) (self : HistoryWalk) : Move → Option Api.ReceiveHistoryPage × HistoryWalk
  | .call call => (none, { self with store := (ReceiveStore.step sqlite self.store call).2 })
  | .read =>
    if self.done then (none, self)
    else
      match self.store.receivePage self.cursor.toNat limit with
      | .error _ => (none, self)
      | .ok page =>
        let page := mapReceivePage page self.cursor.toNat
        (some page,
          { self with cursor := page.nextSequence, seen := self.seen ++ page.records, done := !page.hasMore })

/-- The number of reads among the moves. -/
def reads (moves : List Move) : Nat := moves.countP fun move => match move with | .read => true | .call _ => false

/-- The move inserts no record. -/
def Quiet (sqlite : Sqlite) (walk : HistoryWalk) : Move → Prop
  | .call call => (ReceiveStore.step sqlite walk.store call).1.issued = none
  | .read => True

variable {sqlite : Sqlite} {limit : Nat} {walk : HistoryWalk} {log : List StoredReceive}

/-! ## One read -/

/-- The sequence of a public record. -/
def sequenceOf (summary : Api.ReceiveRecordSummary) : Nat := summary.sequence.toNat

theorem sequenceOf_mapped (h : Holds walk.store log) {entry : StoredReceive} (hentry : entry ∈ log) :
    sequenceOf (mapReceiveRecord entry.sequenced) = entry.sequence := by
  have hle := (h.assigned entry hentry).2
  have hfits := h.fits
  show (UInt64.ofNat entry.sequence).toNat = entry.sequence
  exact UInt64.toNat_ofNat_of_lt' (show entry.sequence < 2 ^ 64 by omega)

/-- What a read gives: the records after the cursor up to the limit. -/
structure ReadPage (limit : Nat) (walk : HistoryWalk) (log : List StoredReceive) (page : Api.ReceiveHistoryPage) : Prop where
  records : page.records = (Lib.page StoredReceive.sequence limit walk.cursor.toNat log).map fun entry =>
    mapReceiveRecord entry.sequenced
  nextSequence : page.nextSequence.toNat =
    lastNumber StoredReceive.sequence walk.cursor.toNat (Lib.page StoredReceive.sequence limit walk.cursor.toNat log)
  hasMore : page.hasMore = decide (limit < (after StoredReceive.sequence walk.cursor.toNat log).length)

variable (sqlite) in
/-- **A read** gives the next page and moves the cursor to its end. -/
theorem read_page (h : Holds walk.store log) (hlimit : 1 ≤ limit ∧ limit ≤ maxReceivePageSize)
    (hcursor : walk.cursor.toNat ≤ walk.store.lastSequence) (hdone : walk.done = false) :
    ∃ page, ReadPage limit walk log page ∧
      step sqlite limit walk .read =
        (some page,
          { walk with cursor := page.nextSequence, seen := walk.seen ++ page.records, done := !page.hasMore }) := by
  have hread := h.receivePage hlimit (hcursor.trans_lt h.fits)
  refine ⟨_, ⟨?_, ?_, rfl⟩, by rw [step, hdone, hread]; rfl⟩
  · show List.map mapReceiveRecord (List.map StoredReceive.sequenced _) = _
    rw [List.map_map]
    rfl
  · show (((List.map mapReceiveRecord (List.map StoredReceive.sequenced _)).getLast?.map
      (·.sequence)).getD (UInt64.ofNat walk.cursor.toNat)).toNat = _
    rw [List.map_map, List.getLast?_map, Option.map_map, lastNumber]
    cases hlast : (Lib.page StoredReceive.sequence limit walk.cursor.toNat log).getLast? with
    | none => exact congrArg UInt64.toNat (UInt64.ofNat_toNat)
    | some entry =>
      have hentry : entry ∈ log := (mem_after.mp (List.mem_of_mem_take (List.mem_of_getLast? hlast))).1
      exact sequenceOf_mapped h hentry

/-! ## The invariant -/

/-- What the client has of the records that were there when it started. -/
structure Follows (origin : ReceiveStore) (walk : HistoryWalk) (log : List StoredReceive) : Prop where
  holds : Holds walk.store log
  older : origin.lastSequence ≤ walk.store.lastSequence
  cursor_le : walk.cursor.toNat ≤ walk.store.lastSequence
  increasing : (walk.seen.map sequenceOf).Pairwise (· < ·)
  below : ∀ sequence ∈ walk.seen.map sequenceOf, sequence ≤ walk.cursor.toNat
  complete : ∀ sequenced, origin.Stores sequenced → walk.store.Stores sequenced →
    sequenced.sequence ≤ walk.cursor.toNat → mapReceiveRecord sequenced ∈ walk.seen
  ended : walk.done = true → ∀ sequenced, origin.Stores sequenced → walk.store.Stores sequenced →
    sequenced.sequence ≤ walk.cursor.toNat

variable {origin : ReceiveStore}

theorem follows_start (h : Holds origin log) : Follows origin (start origin) log where
  holds := h
  older := le_rfl
  cursor_le := Nat.zero_le _
  increasing := .nil
  below := by simp [start]
  complete sequenced hstores _ hle := by
    obtain ⟨entry, hentry, rfl⟩ := h.stores_iff.mp hstores
    have hpositive := (h.assigned entry hentry).1
    exact absurd hle (Nat.not_le.mpr hpositive)
  ended hdone := by cases hdone

variable (sqlite limit) in
/-- A call by others adds no record that was there before. -/
theorem Follows.call (h : Follows origin walk log) (horigin : ∀ sequenced, origin.Stores sequenced →
    sequenced.sequence ≤ origin.lastSequence) (call : ReceiveStore.Call) :
    ∃ next, Follows origin (step sqlite limit walk (.call call)).2 next := by
  obtain ⟨next, hstep⟩ := step_holds h.holds sqlite call
  have hstored {sequenced : SequencedReceiveRecord} (hold : origin.Stores sequenced)
      (hnew : (ReceiveStore.step sqlite walk.store call).2.Stores sequenced) : walk.store.Stores sequenced := by
    obtain ⟨entry, hentry, rfl⟩ := hstep.holds.stores_iff.mp hnew
    rcases hstep.added entry hentry with hmem | hlater
    · exact h.holds.stores hmem
    · have hle : entry.sequence ≤ origin.lastSequence := horigin _ hold
      have := h.older
      omega
  exact ⟨next, hstep.holds, h.older.trans hstep.monotone, h.cursor_le.trans hstep.monotone, h.increasing, h.below,
    fun sequenced hold hnew => h.complete sequenced hold (hstored hold hnew),
    fun hdone sequenced hold hnew => h.ended hdone sequenced hold (hstored hold hnew)⟩

theorem numbered_page (h : Holds walk.store log) (s : Nat) :
    Numbered StoredReceive.sequence (Lib.page StoredReceive.sequence limit s log) :=
  (h.numbered.filter _).sublist (List.take_sublist _ _)

/-- The sequences of the records of a page are those of its entries. -/
theorem ReadPage.sequences (h : Holds walk.store log) {page : Api.ReceiveHistoryPage} (hpage : ReadPage limit walk log page) :
    page.records.map sequenceOf =
      (Lib.page StoredReceive.sequence limit walk.cursor.toNat log).map (·.sequence) := by
  rw [hpage.records, List.map_map]
  exact List.map_congr_left fun entry hentry => sequenceOf_mapped h (mem_after.mp (List.mem_of_mem_take hentry)).1

/-- A record after the cursor and not after the page is on the page. -/
theorem ReadPage.mem (h : Holds walk.store log) {page : Api.ReceiveHistoryPage} (hpage : ReadPage limit walk log page)
    {entry : StoredReceive} (hentry : entry ∈ log) (hafter : walk.cursor.toNat < entry.sequence)
    (hle : entry.sequence ≤ page.nextSequence.toNat) : mapReceiveRecord entry.sequenced ∈ page.records := by
  rw [hpage.nextSequence] at hle
  rw [hpage.records]
  exact List.mem_map_of_mem (h.numbered.mem_page_of_le hentry hafter hle)

/-- A page that is not followed by more ends at the last record. -/
theorem ReadPage.last (h : Holds walk.store log) {page : Api.ReceiveHistoryPage} (hpage : ReadPage limit walk log page)
    (hmore : page.hasMore = false) {entry : StoredReceive} (hentry : entry ∈ log) :
    entry.sequence ≤ page.nextSequence.toNat := by
  rw [hpage.hasMore, decide_eq_false_iff_not, not_lt] at hmore
  rw [hpage.nextSequence]
  rcases Nat.lt_or_ge walk.cursor.toNat entry.sequence with hafter | hbefore
  · have hmem : entry ∈ Lib.page StoredReceive.sequence limit walk.cursor.toNat log := by
      rw [Lib.page, List.take_of_length_le hmore]
      exact mem_after.mpr ⟨hentry, hafter⟩
    exact (numbered_page h _).le_lastNumber hmem
  · rcases lastNumber_cases StoredReceive.sequence walk.cursor.toNat
        (Lib.page StoredReceive.sequence limit walk.cursor.toNat log) with hlast | ⟨other, hother, hlast⟩
    · omega
    · have := (mem_after.mp (List.mem_of_mem_take hother)).2
      omega

/-- The cursor of a page is not before the cursor it was read at. -/
theorem ReadPage.cursor_le {page : Api.ReceiveHistoryPage} (hpage : ReadPage limit walk log page) :
    walk.cursor.toNat ≤ page.nextSequence.toNat := by
  rw [hpage.nextSequence]
  rcases lastNumber_cases StoredReceive.sequence walk.cursor.toNat
      (Lib.page StoredReceive.sequence limit walk.cursor.toNat log) with hlast | ⟨entry, hentry, hlast⟩
  · exact hlast.ge
  · rw [hlast]
    exact Nat.le_of_lt (mem_after.mp (List.mem_of_mem_take hentry)).2

/-- A page that is followed by more is after the cursor. -/
theorem ReadPage.cursor_lt (h : Holds walk.store log) (hlimit : 1 ≤ limit) {page : Api.ReceiveHistoryPage}
    (hpage : ReadPage limit walk log page) (hmore : page.hasMore = true) :
    walk.cursor.toNat < page.nextSequence.toNat := by
  rw [hpage.hasMore, decide_eq_true_iff] at hmore
  have hlength : (Lib.page StoredReceive.sequence limit walk.cursor.toNat log).length = limit := by
    rw [Lib.page, List.length_take, Nat.min_eq_left hmore.le]
  obtain ⟨entry, hentry⟩ := List.exists_mem_of_length_pos (hlength.symm ▸ hlimit)
  have hafter := (mem_after.mp (List.mem_of_mem_take hentry)).2
  have hle := (numbered_page h walk.cursor.toNat).le_lastNumber hentry (s := walk.cursor.toNat)
  rw [hpage.nextSequence]
  exact hafter.trans_le hle

/-- **A read** keeps what the client has and adds the next records. -/
theorem Follows.read (h : Follows origin walk log) {page : Api.ReceiveHistoryPage} (hpage : ReadPage limit walk log page) :
    Follows origin
      { walk with cursor := page.nextSequence, seen := walk.seen ++ page.records, done := !page.hasMore } log where
  holds := h.holds
  older := h.older
  cursor_le := by
    show page.nextSequence.toNat ≤ walk.store.lastSequence
    rw [hpage.nextSequence]
    rcases lastNumber_cases StoredReceive.sequence walk.cursor.toNat
        (Lib.page StoredReceive.sequence limit walk.cursor.toNat log) with hlast | ⟨entry, hentry, hlast⟩
    · rw [hlast]
      exact h.cursor_le
    · rw [hlast]
      exact (h.holds.assigned entry (mem_after.mp (List.mem_of_mem_take hentry)).1).2
  increasing := by
    rw [List.map_append, hpage.sequences h.holds]
    refine List.pairwise_append.mpr ⟨h.increasing, List.pairwise_map.mpr (numbered_page h.holds _), ?_⟩
    intro old hold new hnew
    obtain ⟨entry, hentry, rfl⟩ := List.mem_map.mp hnew
    exact (h.below old hold).trans_lt (mem_after.mp (List.mem_of_mem_take hentry)).2
  below := by
    rw [List.map_append, hpage.sequences h.holds]
    intro sequence hsequence
    rcases List.mem_append.mp hsequence with hold | hnew
    · exact (h.below sequence hold).trans hpage.cursor_le
    · obtain ⟨entry, hentry, rfl⟩ := List.mem_map.mp hnew
      show entry.sequence ≤ page.nextSequence.toNat
      rw [hpage.nextSequence]
      exact (numbered_page h.holds _).le_lastNumber hentry
  complete sequenced hold hnew hle := by
    rcases Nat.lt_or_ge walk.cursor.toNat sequenced.sequence with hafter | hbefore
    · obtain ⟨entry, hentry, rfl⟩ := h.holds.stores_iff.mp hnew
      exact List.mem_append_right _ (hpage.mem h.holds hentry hafter hle)
    · exact List.mem_append_left _ (h.complete sequenced hold hnew hbefore)
  ended hdone sequenced _ hnew := by
    obtain ⟨entry, hentry, rfl⟩ := h.holds.stores_iff.mp hnew
    exact hpage.last h.holds (by simpa using hdone) hentry

/-! ## Walks -/

section Limit

variable (hlimit : 1 ≤ limit ∧ limit ≤ maxReceivePageSize)
  (horigin : ∀ sequenced, origin.Stores sequenced → sequenced.sequence ≤ origin.lastSequence)
include hlimit horigin

/-- Every move keeps what the client has. -/
theorem step_follows (h : Follows origin walk log) (move : Move) :
    ∃ next, Follows origin (step sqlite limit walk move).2 next := by
  cases move with
  | call call => exact h.call sqlite limit horigin call
  | read =>
    cases hdone : walk.done with
    | true =>
      rw [step, hdone]
      exact ⟨log, h⟩
    | false =>
      obtain ⟨page, hpage, hstep⟩ := read_page sqlite h.holds hlimit h.cursor_le hdone
      rw [hstep]
      exact ⟨log, h.read hpage⟩

/-- Reads end a walk when no record is inserted: each moves the cursor towards the last sequence. -/
theorem walk_ends (h : Follows origin walk log) {later : List Move}
    (hquiet : EveryStep (step sqlite limit) (Quiet sqlite) walk later)
    (hreads : walk.done = true ∨ walk.store.lastSequence - walk.cursor.toNat < reads later) :
    (final (step sqlite limit) walk later).done = true := by
  induction later generalizing walk log with
  | nil => exact hreads.resolve_right (Nat.not_lt_zero _)
  | cons move later ih =>
    obtain ⟨hmove, hlater⟩ := hquiet
    rw [final_cons]
    cases move with
    | call call =>
      obtain ⟨next, hnext⟩ := h.call sqlite limit horigin call
      obtain ⟨_, hstep⟩ := step_holds h.holds sqlite call
      refine ih hnext hlater (hreads.imp_right fun hless => ?_)
      show (ReceiveStore.step sqlite walk.store call).2.lastSequence - walk.cursor.toNat < _
      rw [hstep.quiet hmove]
      exact hless
    | read =>
      cases hdone : walk.done with
      | true =>
        have hstays : step sqlite limit walk .read = (none, walk) := by rw [step, hdone]; rfl
        rw [hstays] at hlater ⊢
        exact ih h hlater (.inl hdone)
      | false =>
        obtain ⟨page, hpage, hstep⟩ := read_page sqlite h.holds hlimit h.cursor_le hdone
        rw [hstep] at hlater ⊢
        refine ih (h.read hpage) hlater ?_
        cases hmore : page.hasMore with
        | false => exact .inl rfl
        | true =>
          have hless := hreads.resolve_left (by rw [hdone]; simp)
          have hcursor := hpage.cursor_lt h.holds hlimit.1 hmore
          have hnext := (h.read hpage).cursor_le
          refine .inr ?_
          show walk.store.lastSequence - page.nextSequence.toNat < reads later
          have hcount : reads (.read :: later) = reads later + 1 := List.countP_cons_of_pos rfl
          rw [hcount] at hless
          change page.nextSequence.toNat ≤ walk.store.lastSequence at hnext
          omega

end Limit

/-- **Walking the history.** Between any writes and prunes by others, a client that follows the cursors sees increasing
sequences; when its walk has ended it has seen every record that stayed; a page without more leaves nothing behind; and
its walk ends when nothing is inserted any more. -/
theorem history_walk (sqlite : Sqlite) (limit : Nat) (hlimit : 1 ≤ limit ∧ limit ≤ maxReceivePageSize)
    (before : List ReceiveStore.Call) (moves : List Move) :
    let origin := final (ReceiveStore.step sqlite) .empty before
    let walk := final (step sqlite limit) (start origin) moves
    (walk.seen.map sequenceOf).Pairwise (· < ·) ∧
      (walk.done = true → ∀ sequenced, origin.Stores sequenced → walk.store.Stores sequenced →
        mapReceiveRecord sequenced ∈ walk.seen) ∧
      (walk.done = false → ∃ page, (step sqlite limit walk .read).1 = some page ∧
        (page.hasMore = false → ∀ sequenced, walk.store.Stores sequenced →
          sequenced.sequence ≤ page.nextSequence.toNat)) ∧
      ∀ later, EveryStep (step sqlite limit) (Quiet sqlite) walk later →
        walk.store.lastSequence - walk.cursor.toNat < reads later →
          (final (step sqlite limit) walk later).done = true := by
  intro origin walk
  obtain ⟨log, hrun⟩ := final_holds sqlite before
  have horigin : ∀ sequenced, origin.Stores sequenced → sequenced.sequence ≤ origin.lastSequence := by
    intro sequenced hstores
    obtain ⟨entry, hentry, rfl⟩ := hrun.holds.stores_iff.mp hstores
    exact (hrun.holds.assigned entry hentry).2
  obtain ⟨current, hfollows⟩ : ∃ current, Follows origin walk current :=
    final_inv_all (fun _ move ⟨_, h⟩ => step_follows hlimit horigin h move)
      (I := fun walk => ∃ current, Follows origin walk current) ⟨log, follows_start hrun.holds⟩ moves
  refine ⟨hfollows.increasing, fun hdone sequenced hold hnew => ?_, fun hdone => ?_, fun later hquiet hreads => ?_⟩
  · exact hfollows.complete sequenced hold hnew (hfollows.ended hdone sequenced hold hnew)
  · obtain ⟨page, hpage, hstep⟩ := read_page sqlite hfollows.holds hlimit hfollows.cursor_le hdone
    refine ⟨page, by rw [hstep], fun hmore sequenced hstores => ?_⟩
    obtain ⟨entry, hentry, rfl⟩ := hfollows.holds.stores_iff.mp hstores
    exact hpage.last hfollows.holds hmore hentry
  · exact walk_ends hlimit horigin hfollows hquiet (.inr hreads)

/-- A store of two records. -/
def twoRecords : List ReceiveStore.Call :=
  [.recordReceive (quietRecord firstWindow ⟨1, one_nonzero⟩),
    .recordReceive (quietRecord secondWindow ⟨2, two_nonzero⟩)]

/-- After the first read a third record is inserted and the first is dropped. -/
def movedBetweenReads : List Move :=
  [.read, .call (.recordReceive (quietRecord thirdWindow ⟨3, three_nonzero⟩)),
    .call (.pruneReceiveBefore 2), .read]

/-- Pages of one record. -/
def movedWalk (moves : List Move) : HistoryWalk :=
  final (step (Sqlite.inOrder fun _ => true) 1) (start (final (ReceiveStore.step (Sqlite.inOrder fun _ => true)) .empty
    twoRecords)) moves

theorem history_walk_moved :
    ((movedWalk movedBetweenReads).seen.map sequenceOf).Pairwise (· < ·) ∧
      (∃ page, (step (Sqlite.inOrder fun _ => true) 1 (movedWalk movedBetweenReads) .read).1 = some page ∧
        (page.hasMore = false → ∀ sequenced, (movedWalk movedBetweenReads).store.Stores sequenced →
          sequenced.sequence ≤ page.nextSequence.toNat)) ∧
      (final (step (Sqlite.inOrder fun _ => true) 1) (movedWalk movedBetweenReads) [.read, .read]).done = true ∧
      (movedWalk (movedBetweenReads ++ [.read])).seen.map sequenceOf = [1, 2, 3] ∧
      ∀ sequenced, (final (ReceiveStore.step (Sqlite.inOrder fun _ => true)) .empty twoRecords).Stores sequenced →
        (movedWalk (movedBetweenReads ++ [.read])).store.Stores sequenced →
          mapReceiveRecord sequenced ∈ (movedWalk (movedBetweenReads ++ [.read])).seen := by
  obtain ⟨hincreasing, -, hpage, hends⟩ :=
    history_walk (Sqlite.inOrder fun _ => true) 1 (by decide) twoRecords movedBetweenReads
  obtain ⟨-, hcomplete, -⟩ :=
    history_walk (Sqlite.inOrder fun _ => true) 1 (by decide) twoRecords (movedBetweenReads ++ [.read])
  have hunfinished : (movedWalk movedBetweenReads).done = false := by decide +kernel
  have hfinished : (movedWalk (movedBetweenReads ++ [.read])).done = true := by decide +kernel
  have hleft : (movedWalk movedBetweenReads).store.lastSequence - (movedWalk movedBetweenReads).cursor.toNat <
      reads [.read, .read] := by decide +kernel
  refine ⟨hincreasing, hpage hunfinished, ?_, by decide +kernel, hcomplete hfinished⟩
  have hquiet : EveryStep (step (Sqlite.inOrder fun _ => true) 1) (Quiet (Sqlite.inOrder fun _ => true))
      (movedWalk movedBetweenReads) [.read, .read] := ⟨trivial, trivial, trivial⟩
  exact hends [.read, .read] hquiet hleft

end HistoryWalk

end Slotpilot.Daemon
