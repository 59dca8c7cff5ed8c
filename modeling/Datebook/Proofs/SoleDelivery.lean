import Datebook.Proofs.DeliveredNotices
import Datebook.Proofs.RecordRoundTrip

set_option autoImplicit false

namespace Datebook

namespace Courier

/-- The courier has delivered what was sent, but for the rows that wait. The last row that it has delivered may
wait, too: then it is about to be acknowledged. -/
inductive Level (sent waiting late : List Message) (courier : Courier) : Prop where
  | even (whole : decoded sent = courier.placed ++ decoded waiting)
      (free : ∀ message, courier.phase ≠ .settling message)
      (first : ∀ message notice, courier.phase = .offering message notice → ∃ rest, waiting = message :: rest)
      (late : late = [] ∨ courier.phase = .finished ∧ ∀ message ∈ late, ∀ row ∈ waiting, row.seq ≠ message.seq)
  | ahead (message : Message) (rest : List Message) (whole : decoded sent = courier.placed ++ decoded rest)
      (waits : waiting = message :: rest)
      (holder : courier.phase = .settling message ∧ late = [] ∨ courier.phase = .finished ∧ late = [message])

variable {sent waiting late : List Message} {courier courier' : Courier} {message : Message}

theorem level_fresh : fresh.Level sent sent [] := by
  refine .even rfl ?_ ?_ (.inl rfl)
  · rintro message ⟨⟩
  · rintro message notice ⟨⟩

theorem Level.extend (level : courier.Level sent waiting late) {extra : List Message}
    (young : ∀ row ∈ extra, ∀ message ∈ late, row.seq ≠ message.seq) :
    courier.Level (sent ++ extra) (waiting ++ extra) late := by
  cases level with
  | even whole free first isLate =>
      refine .even ?_ free ?_ (isLate.imp_right ?_)
      · rw [decoded_append, decoded_append, whole, List.append_assoc]
      · intro message notice offers
        obtain ⟨rest, waits⟩ := first message notice offers
        exact ⟨rest ++ extra, by rw [waits, List.cons_append]⟩
      · rintro ⟨finished, gone⟩
        refine ⟨finished, fun message isLate row isRow => ?_⟩
        rcases List.mem_append.mp isRow with old | new
        · exact gone message isLate row old
        · exact young row new message isLate
  | ahead message rest whole waits holder =>
      refine .ahead message (rest ++ extra) ?_ (by rw [waits, List.cons_append]) holder
      rw [decoded_append, decoded_append, whole, List.append_assoc]

theorem late_eq_nil (isLate : late = [] ∨ courier.phase = .finished ∧ ∀ message ∈ late, ∀ row ∈ waiting,
    row.seq ≠ message.seq) (running : courier.phase ≠ .finished) : late = [] :=
  isLate.resolve_right fun ended => running ended.1

theorem Level.moved (level : courier.Level sent waiting late) {move : Delivery.Move}
    (moved : courier.Moved waiting move courier')
    (reads : ∀ message notice, courier.phase = .offering message notice → Notice.decode message.payload = .ok notice) :
    courier'.Level sent waiting late := by
  cases level with
  | ahead message rest whole waits holder =>
      -- The delivery is over, or has nothing to do but to acknowledge.
      have idle : courier.phase = .settling message ∨ courier.phase = .finished := holder.imp And.left And.left
      cases moved with
      | quit free =>
          have ended := holder.resolve_left fun settles => free message settles.1
          exact .ahead message rest whole waits (.inr ⟨rfl, ended.2⟩)
      | start phase | rest phase | offer phase | skip phase | deliver phase => simp [phase] at idle
  | even whole free first isLate =>
      -- A delivery that still moves has left nothing late behind.
      cases moved with
      | quit _ => exact .even whole (by rintro _ ⟨⟩) (by rintro _ _ ⟨⟩) (isLate.imp_right fun ended => ⟨rfl, ended.2⟩)
      | start begins =>
          exact .even whole (by rintro _ ⟨⟩) (by rintro _ _ ⟨⟩) (.inl (late_eq_nil isLate (by simp [begins])))
      | rest looks =>
          exact .even whole (by rintro _ ⟨⟩) (by rintro _ _ ⟨⟩) (.inl (late_eq_nil isLate (by simp [looks])))
      | offer looks first =>
          refine .even whole (by rintro _ ⟨⟩) ?_ (.inl (late_eq_nil isLate (by simp [looks])))
          rintro _ _ ⟨⟩
          exact ⟨_, first⟩
      | @skip message rest fault looks waits fails =>
          refine .ahead message rest ?_ waits (.inl ⟨rfl, late_eq_nil isLate (by simp [looks])⟩)
          rw [whole, waits, decoded_cons_of_error fails]
      | @deliver message notice offers =>
          obtain ⟨rest, waits⟩ := first message notice offers
          refine .ahead message rest ?_ waits (.inl ⟨rfl, late_eq_nil isLate (by simp [offers])⟩)
          rw [whole, waits, decoded_cons_of_ok (reads message notice offers), List.append_assoc, List.singleton_append]

theorem filter_of_ascending {rest : List Message} (waits : waiting = message :: rest)
    (ascending : waiting.Pairwise fun left right => left.seq < right.seq) :
    (waiting.filter fun row => row.seq ≠ message.seq) = rest := by
  subst waits
  rw [List.filter_cons_of_neg (by simp), List.filter_eq_self]
  intro row isRow
  simpa using Int.ne_of_gt ((List.pairwise_cons.mp ascending).1 row isRow)

theorem Level.settled (level : courier.Level sent waiting late) (settles : courier.phase = .settling message)
    (ascending : waiting.Pairwise fun left right => left.seq < right.seq) :
    Level sent (waiting.filter fun row => row.seq ≠ message.seq) late { courier with phase := .beginning } := by
  cases level with
  | even _ free => exact absurd settles (free message)
  | ahead held rest whole waits holder =>
      rw [settles] at holder
      simp only [DeliveryPhase.settling.injEq, reduceCtorEq, false_and, or_false] at holder
      obtain ⟨rfl, onTime⟩ := holder
      rw [filter_of_ascending waits ascending]
      exact .even whole (by rintro _ ⟨⟩) (by rintro _ _ ⟨⟩) (.inl onTime)

theorem Level.settledLate (level : courier.Level sent waiting late) (isLate : message ∈ late)
    (ascending : waiting.Pairwise fun left right => left.seq < right.seq) :
    courier.Level sent (waiting.filter fun row => row.seq ≠ message.seq) late := by
  cases level with
  | even whole free first late' =>
      -- The row has gone before.
      obtain ⟨ended, gone⟩ := late'.resolve_left (List.ne_nil_of_mem isLate)
      have unchanged : (waiting.filter fun row => row.seq ≠ message.seq) = waiting := by
        rw [List.filter_eq_self]
        simpa using gone message isLate
      rw [unchanged]
      exact .even whole free first late'
  | ahead held rest whole waits holder =>
      rcases holder with ⟨-, rfl⟩ | ⟨ended, rfl⟩
      · cases isLate
      · obtain rfl := List.mem_singleton.mp isLate
        have gone : ∀ row ∈ rest, row.seq ≠ message.seq := by
          subst waits
          exact fun row isRow => Int.ne_of_gt ((List.pairwise_cons.mp ascending).1 row isRow)
        rw [filter_of_ascending waits ascending]
        exact .even whole (by simp [ended]) (by simp [ended]) (.inr ⟨ended, by simpa using gone⟩)

theorem Level.cut (level : courier.Level sent waiting late) :
    Level sent waiting (late ++ courier.settling) { courier with phase := .finished } := by
  cases level with
  | even whole free first isLate =>
      have none : courier.settling = [] :=
        List.eq_nil_iff_forall_not_mem.mpr fun message isSettling => free message (mem_settling.mp isSettling)
      rw [none, List.append_nil]
      exact .even whole (by rintro _ ⟨⟩) (by rintro _ _ ⟨⟩) (isLate.imp_right fun ended => ⟨rfl, ended.2⟩)
  | ahead message rest whole waits holder =>
      -- The acknowledgement that was about to be made may come late.
      refine .ahead message rest whole waits (.inr ⟨rfl, ?_⟩)
      rcases holder with ⟨phase, late⟩ | ⟨phase, late⟩ <;> simp [settling, phase, late]

theorem Level.changed (level : courier.Level sent waiting late) (placed : courier'.placed = courier.placed)
    (phase : courier'.phase = courier.phase ∨ courier.phase = .resting ∧ courier'.phase = .beginning) :
    courier'.Level sent waiting late := by
  rcases phase with same | ⟨rests, begins⟩
  · cases level with
    | even whole free first late => exact .even (placed ▸ whole) (same ▸ free) (same ▸ first) (same ▸ late)
    | ahead message rest whole waits holder => exact .ahead message rest (placed ▸ whole) waits (same ▸ holder)
  · cases level with
    | even whole free first late =>
        exact .even (placed ▸ whole) (by simp [begins]) (by simp [begins]) (.inl (late_eq_nil late (by simp [rests])))
    | ahead message rest whole waits holder => simp [rests] at holder

end Courier

namespace Depot

variable {depot next : Depot} {move : Move} {key : Nat} {courier : Courier}

def sent (depot : Depot) : List Message := depot.published.filter fun message => message.queue = Broker.noticeQueue

theorem waiting_without (depot : Depot) (seq : Int) :
    (depot.without seq).waiting = depot.waiting.filter fun row => row.seq ≠ seq := by
  simp only [waiting, without, Broker.without, Broker.waiting, List.filter_filter, Bool.and_comm]

/-- An acknowledgement by a courier comes to a broker that is sound. While the courier is alone its row still
waits, so that no other acknowledgement succeeds. -/
def Move.Settles : Move → Prop
  | .act _ .settle state => state = .sound
  | _ => True

structure Sole (depot : Depot) (key : Nat) : Prop where
  alone : ∀ other courier, depot.couriers.get? other = some courier → other = key
  vacant : depot.couriers.get? key = none → depot.waiting = depot.sent ∧ depot.late = []
  level : ∀ courier, depot.couriers.get? key = some courier → courier.Level depot.sent depot.waiting depot.late

theorem sole_put {late : List Message}
    (alone : ∀ other courier, depot.couriers.get? other = some courier → other = key)
    (level : courier.Level depot.sent depot.waiting late) : Sole { depot.put key courier with late } key where
  alone other old found := by
    rcases FinMap.get?_put_eq_some_iff.mp found with ⟨same, -⟩ | ⟨-, isOld⟩
    · exact same
    · exact alone other old isOld
  vacant absent := by
    rw [Depot.put, FinMap.get?_put_self] at absent
    cases absent
  level old found := by
    rw [Depot.put, FinMap.get?_put_self] at found
    cases found
    exact level

theorem Sole.extended (sole : depot.Sole key) (sound : depot.Sound) (queue : String) (payload : Text.RawText) :
    (depot.extended queue payload).Sole key := by
  let extra := [(⟨depot.broker.lastSeq + 1, queue, payload⟩ : Message)].filter fun row =>
    row.queue = Broker.noticeQueue
  have sent : (depot.extended queue payload).sent = depot.sent ++ extra := List.filter_append ..
  have waiting : (depot.extended queue payload).waiting = depot.waiting ++ extra := List.filter_append ..
  refine ⟨sole.alone, fun absent => ?_, fun courier found => ?_⟩
  · obtain ⟨level, late⟩ := sole.vacant absent
    exact ⟨by rw [sent, waiting, level], late⟩
  · rw [sent, waiting]
    refine (sole.level courier found).extend fun row isNew message isLate => ?_
    rw [List.mem_singleton.mp (List.mem_of_mem_filter isNew)]
    exact Int.ne_of_gt (Int.lt_add_one_iff.mpr (sound.given message (sound.late message isLate).1))

theorem Sole.stepped (sole : depot.Sole key) (sound : depot.Sound) (stepped : depot.Stepped move next)
    (joins : ∀ other, move = .join other → other = key) (settles : move.Settles) : next.Sole key := by
  -- Whoever moves is the courier under the key, as there is no other.
  cases stepped with
  | unpublished | unsettledLate => exact sole
  | published => exact sole.extended sound _ _
  | joined isNew =>
      obtain rfl := joins _ rfl
      obtain ⟨level, late⟩ := sole.vacant isNew
      refine sole_put sole.alone ?_
      rw [level]
      exact late ▸ Courier.level_fresh
  | moved found moved =>
      obtain rfl := sole.alone _ _ found
      exact sole_put sole.alone ((sole.level _ found).moved moved (sound.couriers _ _ found).offers)
  | @settled _ courier message _ found phase =>
      obtain rfl := sole.alone _ _ found
      have level := (sole.level courier found).settled phase sound.ascending_waiting
      rw [← waiting_without] at level
      exact @sole_put (depot.without message.seq) _ _ _ sole.alone level
  | unsettled found phase faulty => exact absurd settles faulty
  | changed found placed phase =>
      obtain rfl := sole.alone _ _ found
      exact sole_put sole.alone ((sole.level _ found).changed placed phase)
  | cut found =>
      obtain rfl := sole.alone _ _ found
      exact sole_put sole.alone (sole.level _ found).cut
  | settledLate isLate =>
      refine ⟨sole.alone, fun absent => ?_, fun courier found => ?_⟩
      · rw [(sole.vacant absent).2] at isLate
        cases isLate
      · rw [waiting_without]
        exact (sole.level courier found).settledLate isLate sound.ascending_waiting

end Depot
end Datebook
