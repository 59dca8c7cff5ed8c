import Mathlib.Data.List.Nodup
import Mathlib.Tactic.ByContra
import Datebook.Proofs.QueueDelivery

set_option autoImplicit false

namespace Datebook

def DeliveryPhase.held? : DeliveryPhase → Option Message
  | offering message _ | settling message => some message
  | beginning | looking | resting | finished => none

namespace Courier

structure Sound (published waiting : List Message) (courier : Courier) : Prop where
  placed : ∀ message notice, (message, notice) ∈ courier.placed → message ∈ published ∧
    message.queue = Broker.noticeQueue ∧ Notice.decode message.payload = .ok notice
  ordered : (courier.placed.map fun pair => pair.1.seq).Pairwise (· ≤ ·)
  passed : ∀ pair ∈ courier.placed, ∀ row ∈ waiting, pair.1.seq ≤ row.seq
  held : ∀ message, courier.phase.held? = some message → message ∈ published ∧
    message.queue = Broker.noticeQueue ∧ (∀ row ∈ waiting, message.seq ≤ row.seq) ∧
    ∀ pair ∈ courier.placed, pair.1.seq ≤ message.seq
  offers : ∀ message notice, courier.phase = .offering message notice →
    Notice.decode message.payload = .ok notice
  settles : ∀ message, courier.phase = .settling message →
    (∃ notice, (message, notice) ∈ courier.placed) ∨ ∃ fault, Notice.decode message.payload = .error fault

variable {published published' waiting waiting' : List Message} {courier courier' : Courier}

theorem sound_fresh : fresh.Sound published waiting where
  placed message notice isPlaced := by cases isPlaced
  ordered := .nil
  passed pair isPlaced := by cases isPlaced
  held message holds := by cases holds
  offers message notice offers := by cases offers
  settles message settles := by cases settles

theorem Sound.mono (sound : courier.Sound published waiting) (grown : published ⊆ published')
    (rows : ∀ row ∈ waiting', row ∈ waiting ∨ ∀ message ∈ published, message.seq ≤ row.seq) :
    courier.Sound published' waiting' := by
  refine ⟨?_, sound.ordered, ?_, ?_, sound.offers, sound.settles⟩
  · intro message notice isPlaced
    exact (sound.placed message notice isPlaced).imp_left (grown ·)
  · intro pair isPlaced row isRow
    rcases rows row isRow with old | young
    · exact sound.passed pair isPlaced row old
    · exact young pair.1 (sound.placed pair.1 pair.2 isPlaced).1
  · intro message holds
    obtain ⟨isPublished, queue, first, last⟩ := sound.held message holds
    refine ⟨grown isPublished, queue, ?_, last⟩
    intro row isRow
    rcases rows row isRow with old | young
    · exact first row old
    · exact young message isPublished

theorem Sound.congr (sound : courier.Sound published waiting) (placed : courier'.placed = courier.placed)
    (phase : courier'.phase = courier.phase ∨ courier'.phase.held? = none) : courier'.Sound published waiting := by
  obtain ⟨phase', channel, watch, _⟩ := courier'
  subst placed
  rcases phase with rfl | free
  · exact ⟨sound.placed, sound.ordered, sound.passed, sound.held, sound.offers, sound.settles⟩
  · refine ⟨sound.placed, sound.ordered, sound.passed, ?_, ?_, ?_⟩
    · intro message holds
      cases free.symm.trans holds
    · rintro message notice rfl
      cases free
    · rintro message rfl
      cases free

theorem Sound.hold (sound : courier.Sound published waiting) {message : Message} {rest : List Message}
    (first : waiting = message :: rest) (ascending : waiting.Pairwise fun left right => left.seq < right.seq)
    (isPublished : ∀ row ∈ waiting, row ∈ published ∧ row.queue = Broker.noticeQueue) :
    message ∈ published ∧ message.queue = Broker.noticeQueue ∧ (∀ row ∈ waiting, message.seq ≤ row.seq) ∧
      ∀ pair ∈ courier.placed, pair.1.seq ≤ message.seq := by
  have member : message ∈ waiting := first ▸ List.mem_cons_self ..
  refine ⟨(isPublished message member).1, (isPublished message member).2, ?_, ?_⟩
  · rw [first] at ascending ⊢
    intro row isRow
    rcases List.mem_cons.mp isRow with rfl | later
    · exact Int.le_refl _
    · exact Int.le_of_lt ((List.pairwise_cons.mp ascending).1 row later)
  · exact fun pair isPlaced => sound.passed pair isPlaced message member

theorem Sound.moved (sound : courier.Sound published waiting) {move : Delivery.Move}
    (moved : courier.Moved waiting move courier')
    (ascending : waiting.Pairwise fun left right => left.seq < right.seq)
    (isPublished : ∀ row ∈ waiting, row ∈ published ∧ row.queue = Broker.noticeQueue) :
    courier'.Sound published waiting := by
  cases moved with
  | quit | start | rest => exact sound.congr rfl (.inr rfl)
  | offer looks first reads =>
      refine ⟨sound.placed, sound.ordered, sound.passed, ?_, ?_, ?_⟩
      · rintro _ ⟨⟩
        exact sound.hold first ascending isPublished
      · rintro _ _ ⟨⟩
        exact reads
      · rintro _ ⟨⟩
  | skip looks first fails =>
      refine ⟨sound.placed, sound.ordered, sound.passed, ?_, ?_, ?_⟩
      · rintro _ ⟨⟩
        exact sound.hold first ascending isPublished
      · rintro _ _ ⟨⟩
      · rintro _ ⟨⟩
        exact .inr ⟨_, fails⟩
  | @deliver message notice offers =>
      -- The row in hand is not older than those that were delivered, nor younger than those that wait.
      obtain ⟨isOld, queue, first, last⟩ := sound.held message (by rw [offers]; rfl)
      have added (pair : Message × Notice) (isPlaced : pair ∈ courier.placed ++ [(message, notice)]) :
          pair ∈ courier.placed ∨ pair = (message, notice) := by simpa using isPlaced
      refine ⟨?_, ?_, ?_, ?_, ?_, ?_⟩
      · intro other otherNotice isPlaced
        rcases added _ isPlaced with before | same
        · exact sound.placed other otherNotice before
        · cases same
          exact ⟨isOld, queue, sound.offers message notice offers⟩
      · rw [List.map_append]
        refine List.pairwise_append.mpr ⟨sound.ordered, List.pairwise_singleton _ _, ?_⟩
        intro seq isPlaced seq' isNew
        obtain ⟨pair, before, rfl⟩ := List.mem_map.mp isPlaced
        rw [List.mem_singleton.mp isNew]
        exact last pair before
      · intro pair isPlaced row isRow
        rcases added pair isPlaced with before | rfl
        · exact sound.passed pair before row isRow
        · exact first row isRow
      · rintro _ ⟨⟩
        refine ⟨isOld, queue, first, ?_⟩
        intro pair isPlaced
        rcases added pair isPlaced with before | rfl
        · exact last pair before
        · exact Int.le_refl _
      · rintro _ _ ⟨⟩
      · rintro _ ⟨⟩
        exact .inl ⟨notice, List.mem_append_right _ (List.mem_singleton_self _)⟩

theorem mem_settling {message : Message} : message ∈ courier.settling ↔ courier.phase = .settling message := by
  unfold settling
  split
  · next settles => simp [settles, eq_comm]
  · next others => exact ⟨fun isSettling => (List.not_mem_nil isSettling).elim, fun settles => absurd settles (others message)⟩

theorem Moved.placed_subset {move : Delivery.Move} (moved : courier.Moved waiting move courier') :
    courier.placed ⊆ courier'.placed := by
  cases moved with
  | deliver offers => exact List.subset_append_left _ _
  | _ => exact List.Subset.refl _

end Courier

namespace Depot

variable {depot next : Depot} {move : Move} {key : Nat} {message : Message}

def HasPlaced (depot : Depot) (message : Message) : Prop :=
  ∃ key courier notice, depot.couriers.get? key = some courier ∧ (message, notice) ∈ courier.placed

-- Nothing is lost with the row.
def MayGo (depot : Depot) (message : Message) : Prop :=
  message ∈ depot.published ∧ message.queue = Broker.noticeQueue ∧
    (depot.HasPlaced message ∨ ∃ fault, Notice.decode message.payload = .error fault)

structure Sound (depot : Depot) : Prop where
  rows : depot.broker.rows.Sublist depot.published
  ascending : depot.published.Pairwise fun left right => left.seq < right.seq
  given : ∀ message ∈ depot.published, message.seq ≤ depot.broker.lastSeq
  removed : ∀ message ∈ depot.published, message ∉ depot.broker.rows → depot.MayGo message
  couriers : ∀ key courier, depot.couriers.get? key = some courier → courier.Sound depot.published depot.waiting
  late : ∀ message ∈ depot.late, depot.MayGo message
  acknowledged : ∀ seq ∈ depot.acknowledged, seq ≤ depot.broker.lastSeq ∧ ∀ row ∈ depot.broker.rows, row.seq ≠ seq

theorem sound_start {broker : Broker} (ordered : broker.Ordered) : (start broker).Sound where
  rows := .refl _
  ascending := ordered.ascending
  given := ordered.given
  removed message isPublished isGone := absurd isPublished isGone
  couriers key courier found := by cases found
  late message isLate := by cases isLate
  acknowledged seq isAcknowledged := by cases isAcknowledged

theorem Sound.mem_waiting (sound : depot.Sound) :
    ∀ row ∈ depot.waiting, row ∈ depot.published ∧ row.queue = Broker.noticeQueue := by
  intro row isRow
  obtain ⟨member, queue⟩ := List.mem_filter.mp isRow
  exact ⟨sound.rows.subset member, by simpa using queue⟩

theorem Sound.ascending_waiting (sound : depot.Sound) :
    depot.waiting.Pairwise fun left right => left.seq < right.seq :=
  sound.ascending.sublist (List.filter_sublist.trans sound.rows)

theorem Sound.eq_of_seq_eq (sound : depot.Sound) {left right : Message} (isLeft : left ∈ depot.published)
    (isRight : right ∈ depot.published) (same : left.seq = right.seq) : left = right := by
  have distinct : (depot.published.map Message.seq).Nodup :=
    List.pairwise_map.mpr (sound.ascending.imp Int.ne_of_lt)
  exact List.inj_on_of_nodup_map distinct isLeft isRight same

theorem MayGo.put {courier : Courier} (mayGo : depot.MayGo message)
    (keeps : ∀ old, depot.couriers.get? key = some old → old.placed ⊆ courier.placed) :
    (depot.put key courier).MayGo message := by
  obtain ⟨isPublished, queue, reason⟩ := mayGo
  refine ⟨isPublished, queue, reason.imp_left ?_⟩
  rintro ⟨other, old, notice, found, isPlaced⟩
  by_cases same : other = key
  · subst same
    exact ⟨other, courier, notice, FinMap.get?_put_self .., keeps old found isPlaced⟩
  · exact ⟨other, old, notice, by rw [Depot.put, FinMap.get?_put_of_ne _ same, found], isPlaced⟩

theorem Sound.put {courier : Courier} (sound : depot.Sound)
    (own : courier.Sound depot.published depot.waiting)
    (keeps : ∀ old, depot.couriers.get? key = some old → old.placed ⊆ courier.placed) :
    (depot.put key courier).Sound where
  rows := sound.rows
  ascending := sound.ascending
  given := sound.given
  removed message isPublished isGone := (sound.removed message isPublished isGone).put keeps
  late message isLate := (sound.late message isLate).put keeps
  acknowledged := sound.acknowledged
  couriers other old found := by
    rcases FinMap.get?_put_eq_some_iff.mp found with ⟨-, rfl⟩ | ⟨-, isOld⟩
    · exact own
    · exact sound.couriers other old isOld

theorem Sound.extended (sound : depot.Sound) (queue : String) (payload : Text.RawText) :
    (depot.extended queue payload).Sound := by
  -- Whatever was said of rows holds of the new one, as its number is greater than all before.
  have young (other : Message) (isPublished : other ∈ depot.published) : other.seq < depot.broker.lastSeq + 1 :=
    Int.lt_add_one_iff.mpr (sound.given other isPublished)
  refine ⟨sound.rows.append_right _, ?_, ?_, ?_, ?_, ?_, ?_⟩
  · refine List.pairwise_append.mpr ⟨sound.ascending, List.pairwise_singleton _ _, ?_⟩
    intro other isPublished new isNew
    rw [List.mem_singleton.mp isNew]
    exact young other isPublished
  · intro other isThere
    rcases List.mem_append.mp isThere with isPublished | isNew
    · exact Int.le_of_lt (young other isPublished)
    · rw [List.mem_singleton.mp isNew]
      exact Int.le_refl _
  · intro other isThere isGone
    rcases List.mem_append.mp isThere with isPublished | isNew
    · have wasGone : other ∉ depot.broker.rows := fun isRow => isGone (List.mem_append_left _ isRow)
      exact (sound.removed other isPublished wasGone).imp_left (List.mem_append_left _)
    · exact absurd (List.mem_append_right _ isNew) isGone
  · intro key courier found
    refine (sound.couriers key courier found).mono (List.subset_append_left _ _) ?_
    intro row isRow
    obtain ⟨isThere, queue⟩ := List.mem_filter.mp isRow
    rcases List.mem_append.mp isThere with old | isNew
    · exact .inl (List.mem_filter.mpr ⟨old, queue⟩)
    · right
      intro other isPublished
      rw [List.mem_singleton.mp isNew]
      exact Int.le_of_lt (young other isPublished)
  · intro other isLate
    exact (sound.late other isLate).imp_left (List.mem_append_left _)
  · intro seq isAcknowledged
    obtain ⟨isGiven, isGone⟩ := sound.acknowledged seq isAcknowledged
    refine ⟨Int.le_trans isGiven (Int.le_of_lt (Int.lt_succ _)), ?_⟩
    intro row isThere
    rcases List.mem_append.mp isThere with old | isNew
    · exact isGone row old
    · rw [List.mem_singleton.mp isNew]
      exact Int.ne_of_gt (Int.lt_add_one_iff.mpr isGiven)

theorem Sound.without (sound : depot.Sound) (mayGo : depot.MayGo message) : (depot.without message.seq).Sound := by
  have isRow {row : Message} (isThere : row ∈ (depot.without message.seq).broker.rows) :
      row ∈ depot.broker.rows ∧ row.seq ≠ message.seq := by simpa using List.mem_filter.mp isThere
  refine ⟨List.filter_sublist.trans sound.rows, sound.ascending, sound.given, ?_, ?_, sound.late, ?_⟩
  · intro other isPublished isGone
    by_cases wasRow : other ∈ depot.broker.rows
    · -- Numbers are distinct, so no other row goes.
      have same : other.seq = message.seq := by
        by_contra differs
        exact isGone (List.mem_filter.mpr ⟨wasRow, by simpa using differs⟩)
      rw [sound.eq_of_seq_eq isPublished mayGo.1 same]
      exact mayGo
    · exact sound.removed other isPublished wasRow
  · intro key courier found
    refine (sound.couriers key courier found).mono (fun _ => id) fun row isThere => .inl ?_
    obtain ⟨isThere, queue⟩ := List.mem_filter.mp isThere
    exact List.mem_filter.mpr ⟨(isRow isThere).1, queue⟩
  · intro seq isAcknowledged
    rcases List.mem_append.mp isAcknowledged with before | isNew
    · obtain ⟨isGiven, isGone⟩ := sound.acknowledged seq before
      exact ⟨isGiven, fun row isThere => isGone row (isRow isThere).1⟩
    · rw [List.mem_singleton.mp isNew]
      exact ⟨sound.given message mayGo.1, fun row isThere => (isRow isThere).2⟩

theorem Sound.mayGo_of_settling {courier : Courier} (sound : depot.Sound)
    (found : depot.couriers.get? key = some courier) (settles : courier.phase = .settling message) :
    depot.MayGo message := by
  have own := sound.couriers key courier found
  obtain ⟨isPublished, queue, -⟩ := own.held message (by rw [settles]; rfl)
  refine ⟨isPublished, queue, (own.settles message settles).imp_left ?_⟩
  rintro ⟨notice, isPlaced⟩
  exact ⟨key, courier, notice, found, isPlaced⟩

theorem Sound.postpone (sound : depot.Sound) {more : List Message} (mayGo : ∀ message ∈ more, depot.MayGo message) :
    Sound { depot with late := depot.late ++ more } where
  rows := sound.rows
  ascending := sound.ascending
  given := sound.given
  removed := sound.removed
  couriers := sound.couriers
  late message isLate := (List.mem_append.mp isLate).elim (sound.late message) (mayGo message)
  acknowledged := sound.acknowledged

theorem Sound.stepped (sound : depot.Sound) (stepped : depot.Stepped move next) : next.Sound := by
  have keeps {key : Nat} {courier courier' : Courier} (found : depot.couriers.get? key = some courier)
      (placed : courier.placed ⊆ courier'.placed) :
      ∀ old, depot.couriers.get? key = some old → old.placed ⊆ courier'.placed := by
    intro old isOld
    rw [found] at isOld
    cases isOld
    exact placed
  -- Rows come with a publication and go with an acknowledgement; all else happens to one courier.
  cases stepped with
  | unpublished | unsettledLate => exact sound
  | published => exact sound.extended _ _
  | joined isNew =>
      refine sound.put Courier.sound_fresh fun old isOld => ?_
      rw [isNew] at isOld
      cases isOld
  | moved found moved =>
      have own := (sound.couriers _ _ found).moved moved sound.ascending_waiting sound.mem_waiting
      exact sound.put own (keeps found moved.placed_subset)
  | settled found settles =>
      have without := sound.without (sound.mayGo_of_settling found settles)
      exact without.put ((without.couriers _ _ found).congr rfl (.inr rfl)) (keeps found (List.Subset.refl _))
  | unsettled found settles faulty =>
      exact sound.put ((sound.couriers _ _ found).congr rfl (.inr rfl)) (keeps found (List.Subset.refl _))
  | changed found placed phase =>
      have own := (sound.couriers _ _ found).congr placed
        (phase.imp_right fun ⟨_, begins⟩ => by rw [begins]; rfl)
      exact sound.put own (keeps found (placed ▸ List.Subset.refl _))
  | @cut key courier found =>
      let finished : Courier := { courier with phase := .finished }
      have own : finished.Sound depot.published depot.waiting := (sound.couriers _ _ found).congr rfl (.inr rfl)
      have kept := keeps found (List.Subset.refl finished.placed)
      refine (sound.put own kept).postpone fun message isSettling => ?_
      exact (sound.mayGo_of_settling found (Courier.mem_settling.mp isSettling)).put kept
  | settledLate isLate => exact sound.without (sound.late _ isLate)

theorem sound_of_run {broker : Broker} (ordered : broker.Ordered) {moves : List Move}
    (ran : Steps.run step moves (start broker) = some depot) : depot.Sound := by
  refine Steps.run_invariant (sound_start ordered) ?_ ran
  intro depot move next _ stepped sound
  exact sound.stepped (stepped_of_step stepped)

end Depot
end Datebook
