import Datebook.Event.Json
import Datebook.Proofs.WrittenInstants
import Datebook.Proofs.WrittenJson

set_option autoImplicit false

namespace Datebook

namespace Json

open Text.RawText (ofChars)

variable {α β : Type} {value next final : α}

/-- Reading takes exactly these lexemes off the front, whatever follows, and makes this of them. -/
def Reads (read : Read α) (content : List Lexeme) (value : α) : Prop :=
  ∀ rest, read (content.map Lexeme.token ++ rest) = .ok (value, rest)

theorem reads_natural (value : UInt64) : Reads readNatural [.natural value] value := fun _ => rfl

theorem reads_boolean (value : Bool) : Reads readBoolean [.boolean value] value := fun _ => rfl

theorem reads_string (value : String) : Reads readString [.string value.toList] value := by
  intro rest
  change Except.ok (String.ofList value.toList, rest) = _
  rw [String.ofList_toList]

theorem reads_instant (instant : Instant) : Reads readInstant [instant.lexeme] instant := by
  intro rest
  change readAccepted readText Instant.read? (.string (.ok instant.write) (.ok ()) :: rest) = _
  have accepted := Instant.read?_write instant
  simp only [readAccepted, readText, Except.bind, bind]
  rw [accepted]

theorem reads_optionalInstant (instant : Option Instant) :
    Reads (readOptional readInstant) [optional Instant.lexeme instant] instant := by
  intro rest
  cases instant with
  | none => rfl
  | some instant => exact congrArg (Except.map fun (value, rest) => (some value, rest)) (reads_instant instant rest)

theorem Reads.member {read : Read β} {content : List Lexeme} {part : β} (reads : Reads read content part)
    {name : String} {required : Bool} {set : α → β → α} {record : α} :
    Reads ((Member.of name required read set).read record) content (set record part) := by
  intro rest
  change (read _).map _ = _
  rw [reads rest]
  rfl

-- Reading the contents of one member after the other makes `final` of `value`.
inductive Sets : α → List (Member α × List Lexeme) → α → Prop where
  | nil (value : α) : Sets value [] value
  | cons {value next final : α} {member : Member α} {content : List Lexeme} {fields : List (Member α × List Lexeme)} :
      Reads (member.read value) content next → Sets next fields final →
        Sets value ((member, content) :: fields) final

namespace Shape

variable {shape : Shape α} {fields : List (Member α × List Lexeme)} {member : Member α} {content : List Lexeme}

theorem find?_of_mem (distinct : (shape.members.map Member.name).Nodup) (listed : member ∈ shape.members) :
    shape.find? member.name.toList = some member := by
  rw [find?]
  generalize shape.members = members at distinct listed ⊢
  induction members with
  | nil => cases listed
  | cons first others ih =>
      have apart := List.nodup_cons.mp distinct
      by_cases same : first.name.toList = member.name.toList
      · rw [List.find?_cons_of_pos (by simp [same])]
        rcases List.mem_cons.mp listed with rfl | among
        · rfl
        · rw [String.toList_inj] at same
          exact absurd (List.mem_map.mpr ⟨member, among, same.symm⟩) apart.1
      · rw [List.find?_cons_of_neg (by simp [same])]
        rcases List.mem_cons.mp listed with rfl | among
        · exact absurd rfl same
        · exact ih apart.2 among

theorem readMember_field {steps : Nat} {seen : List String} {text : List Token} {rest : List Token}
    (found : shape.find? member.name.toList = some member) (fresh : member.name ∉ seen)
    (read : member.read value text = .ok (next, rest)) :
    readMembers.readMember shape steps seen value (.string (.ok member.name.toList) (.ok ()) :: .colon :: text) =
      shape.readMembers steps (member.name :: seen) false next rest := by
  have unseen : seen.contains member.name = false := by simpa using fresh
  simp only [readMembers.readMember, found, unseen, readMembers.pastColon, Bool.false_eq_true, if_false]
  change (member.read value text >>= _) = _
  rw [read]
  rfl

theorem readMembers_close {steps : Nat} {seen : List String} {first : Bool}
    (covered : ∀ member ∈ shape.members, member.name ∈ seen) (rest : List Token) :
    shape.readMembers (steps + 1) seen first value (.closeObject :: rest) = .ok (value, rest) := by
  have complete : (shape.members.all fun member => ¬ member.required || seen.contains member.name) = true := by
    simp only [List.all_eq_true, Bool.or_eq_true, List.contains_iff_mem]
    exact fun member listed => .inr (covered member listed)
  rw [readMembers, if_pos complete]

theorem readMembers_comma (steps : Nat) (seen : List String) (value : α) (rest : List Token) :
    shape.readMembers (steps + 1) seen false value (.comma :: rest) =
      readMembers.readMember shape steps seen value rest := by
  rw [readMembers]
  rfl

theorem readMembers_first (steps : Nat) (value : α) (key : List Char) (rest : List Token) :
    shape.readMembers (steps + 1) [] true value (.string (.ok key) (.ok ()) :: rest) =
      readMembers.readMember shape steps [] value (.string (.ok key) (.ok ()) :: rest) := by
  rw [readMembers]
  · rfl
  all_goals
    intros
    next same => cases same

def inObject (field : Member α × List Lexeme) : List Lexeme :=
  .string field.1.name.toList :: .colon :: field.2

theorem readMembers_fields (sets : Sets value fields final) {steps : Nat} {seen : List String}
    (enough : fields.length < steps)
    (found : ∀ field ∈ fields, shape.find? field.1.name.toList = some field.1)
    (distinct : (fields.map fun field => field.1.name).Nodup) (fresh : ∀ field ∈ fields, field.1.name ∉ seen)
    (covered : ∀ member ∈ shape.members, member.name ∈ seen ∨ member.name ∈ fields.map fun field => field.1.name)
    (rest : List Token) :
    shape.readMembers steps seen false value
        ((fields.flatMap fun field => .comma :: inObject field).map Lexeme.token ++ .closeObject :: rest) =
      .ok (final, rest) := by
  obtain ⟨fewer, rfl⟩ : ∃ fewer, steps = fewer + 1 := ⟨steps - 1, by omega⟩
  induction sets generalizing fewer seen with
  | nil value => exact readMembers_close (fun member listed => (covered member listed).resolve_right List.not_mem_nil) rest
  | @cons value next final member content fields reads sets ih =>
      obtain ⟨apart, distinct⟩ := List.nodup_cons.mp distinct
      have head : (member, content) ∈ (member, content) :: fields := List.mem_cons_self ..
      obtain ⟨fewest, rfl⟩ : ∃ fewest, fewer = fewest + 1 :=
        ⟨fewer - 1, by rw [List.length_cons] at enough; omega⟩
      rw [List.flatMap_cons, List.map_append, List.append_assoc]
      -- The comma and the member use up one step and give the member's name to those that were seen.
      have later (field : Member α × List Lexeme) (listed : field ∈ fields) :
          field.1.name ∉ member.name :: seen := by
        intro seenBefore
        rcases List.mem_cons.mp seenBefore with same | before
        · exact apart (List.mem_map.mpr ⟨field, listed, same⟩)
        · exact fresh field (List.mem_cons_of_mem _ listed) before
      have covered (other : Member α) (listed : other ∈ shape.members) :
          other.name ∈ member.name :: seen ∨ other.name ∈ fields.map fun field => field.1.name := by
        rcases covered other listed with before | among
        · exact .inl (List.mem_cons_of_mem _ before)
        · rcases List.mem_cons.mp among with same | among
          · exact .inl (same ▸ List.mem_cons_self ..)
          · exact .inr among
      have others (field : Member α × List Lexeme) (listed : field ∈ fields) :=
        found field (List.mem_cons_of_mem _ listed)
      exact (readMembers_comma _ _ _ _).trans ((readMember_field (found _ head) (fresh _ head) (reads _)).trans
        (ih others distinct later covered fewest (Nat.lt_of_succ_lt_succ enough)))

theorem separated_cons (item : List Lexeme) (items : List (List Lexeme)) :
    separated (item :: items) = item ++ items.flatMap fun next => .comma :: next := by
  induction items generalizing item with
  | nil => exact (List.append_nil item).symm
  | cons next rest ih => rw [separated, ih, List.flatMap_cons, List.cons_append]

theorem objectOf_cons (field : Member α × List Lexeme) (others : List (Member α × List Lexeme)) :
    objectOf ((field :: others).map fun field => (field.1.name, field.2)) =
      .openObject :: (inObject field ++ ((others.flatMap fun next => .comma :: inObject next) ++ [.closeObject])) := by
  rw [objectOf, List.map_map, List.map_cons, separated_cons, List.cons_append, List.append_assoc, List.flatMap_map]
  rfl

theorem length_le_flatMap (fields : List (Member α × List Lexeme)) :
    fields.length ≤ (fields.flatMap fun next => .comma :: inObject next).length := by
  induction fields with
  | nil => exact Nat.le_refl 0
  | cons field fields ih =>
      rw [List.flatMap_cons, List.length_append, List.length_cons, List.length_cons]
      omega

theorem read_objectOf (distinct : (shape.members.map Member.name).Nodup) (whole : fields.map Prod.fst = shape.members)
    (sets : Sets shape.blank fields final) (rest : List Token) :
    shape.read ((objectOf (fields.map fun field => (field.1.name, field.2))).map Lexeme.token ++ rest) =
      .ok (final, rest) := by
  have names : fields.map (fun field => field.1.name) = shape.members.map Member.name := by
    rw [← whole, List.map_map]
    rfl
  have found (field : Member α × List Lexeme) (listed : field ∈ fields) :
      shape.find? field.1.name.toList = some field.1 :=
    find?_of_mem distinct (whole ▸ List.mem_map_of_mem listed)
  have covered (member : Member α) (listed : member ∈ shape.members) :
      member.name ∈ fields.map fun field => field.1.name := names ▸ List.mem_map_of_mem listed
  cases sets with
  | nil value =>
      exact readMembers_close (fun member listed => absurd (covered member listed) List.not_mem_nil) rest
  | @cons _ next _ member content others reads sets =>
      obtain ⟨apart, distinct⟩ := List.nodup_cons.mp (names.symm ▸ distinct)
      have head : (member, content) ∈ (member, content) :: others := List.mem_cons_self ..
      have room := length_le_flatMap others
      rw [objectOf_cons, List.map_cons, List.map_append, List.map_append, List.cons_append, List.append_assoc,
        List.append_assoc]
      refine (readMembers_first _ _ _ _).trans ((readMember_field (found _ head) List.not_mem_nil (reads _)).trans ?_)
      apply readMembers_fields sets
      · simp only [List.append_eq, List.length_append, List.length_map, List.length_cons]
        omega
      · exact fun field listed => found field (List.mem_cons_of_mem _ listed)
      · exact distinct
      · intro field listed same
        exact apart (List.mem_map.mpr ⟨field, listed, List.mem_singleton.mp same⟩)
      · intro other listed
        exact (List.mem_cons.mp (covered other listed)).imp_left List.mem_singleton.mpr

-- Begins neither where a list ends nor where it goes on.
def startsItem : List Token → Bool
  | [] | .comma :: _ | .closeList :: _ => false
  | _ => true

theorem readItem_field {others : List (Member α)} {text rest : List Token}
    (read : member.read value text = .ok (next, rest)) :
    readItems.readItem shape member others value text = shape.readItems others false next rest := by
  rw [readItems.readItem, read]
  rfl

theorem readItems_first {others : List (Member α)} {text : List Token} (starts : startsItem text = true) :
    shape.readItems (member :: others) true value text = readItems.readItem shape member others value text := by
  rw [readItems]
  · rfl
  · rintro rfl
    cases starts
  all_goals
    rintro _ rfl
    cases starts

theorem readItems_comma {others : List (Member α)} {text : List Token} (starts : startsItem text = true) :
    shape.readItems (member :: others) false value (.comma :: text) =
      readItems.readItem shape member others value text := by
  rw [readItems]
  · rfl
  · rintro rfl
    cases starts
  · rintro _ rfl
    cases starts

theorem readItems_fields (sets : Sets value fields final)
    (starts : ∀ field ∈ fields, ∀ rest, startsItem (field.2.map Lexeme.token ++ rest) = true) (rest : List Token) :
    shape.readItems (fields.map Prod.fst) false value
        ((fields.flatMap fun field => .comma :: field.2).map Lexeme.token ++ .closeList :: rest) =
      .ok (final, rest) := by
  induction sets with
  | nil value => rw [List.map_nil, List.flatMap_nil, List.map_nil, List.nil_append, readItems]
  | @cons value next final member content fields reads sets ih =>
      rw [List.flatMap_cons, List.map_append, List.append_assoc]
      have later := ih fun field listed => starts field (List.mem_cons_of_mem _ listed)
      exact (readItems_comma (starts _ (List.mem_cons_self ..) _)).trans ((readItem_field (reads _)).trans later)

-- The list form of a record, with the contents of its members in their order and without their names.
theorem read_listOf (whole : fields.map Prod.fst = shape.members) (sets : Sets shape.blank fields final)
    (starts : ∀ field ∈ fields, ∀ rest, startsItem (field.2.map Lexeme.token ++ rest) = true) (rest : List Token) :
    shape.read ((listOf (fields.map Prod.snd)).map Lexeme.token ++ rest) = .ok (final, rest) := by
  cases sets with
  | nil value =>
      change shape.readItems shape.members true shape.blank (.closeList :: rest) = _
      rw [← whole, List.map_nil, readItems]
  | @cons _ next _ member content others reads sets =>
      rw [listOf, List.map_cons, separated_cons, List.flatMap_map, List.cons_append, List.map_cons, List.append_assoc,
        List.map_append, List.map_append, List.cons_append, List.append_assoc, List.append_assoc]
      change shape.readItems shape.members true shape.blank _ = _
      rw [← whole, List.map_cons]
      have later := @readItems_fields _ _ _ shape _ sets
        (fun field listed => starts field (List.mem_cons_of_mem _ listed)) rest
      exact (readItems_first (starts _ (List.mem_cons_self ..) _)).trans ((readItem_field (reads _)).trans later)

end Shape

theorem readWhole_write {read : Read α} {lexemes : List Lexeme} (apart : Apart lexemes) (reads : Reads read lexemes value) :
    readWhole read (ofChars (write lexemes)) = .ok value := by
  have whole := reads []
  rw [List.append_nil] at whole
  rw [readWhole, tokens_write apart, whole]
  rfl

theorem readFirst_of_readWhole {read : Read α} {text : Text.RawText} (reads : readWhole read text = .ok value) :
    readFirst read text = .ok value := by
  unfold readWhole at reads
  unfold readFirst
  cases first : read (tokens text) with
  | error fault =>
      rw [first] at reads
      cases reads
  | ok pair =>
      rw [first] at reads
      change (if pair.2.isEmpty then Except.ok pair.1 else _) = _ at reads
      split at reads
      · cases reads
        rfl
      · cases reads

theorem apart_of_length {content : List Lexeme} (single : content.length = 1) : Apart content := by
  obtain ⟨lexeme, rfl⟩ := List.length_eq_one_iff.mp single
  exact .singleton lexeme

theorem apart_of_single {members : List (String × List Lexeme)} (single : ∀ member ∈ members, member.2.length = 1) :
    Apart (objectOf members) :=
  apart_objectOf fun member listed => apart_of_length (single member listed)

theorem apart_listOf {items : List (List Lexeme)} (single : ∀ item ∈ items, item.length = 1) : Apart (listOf items) :=
  ((apart_separated fun item listed => apart_of_length (single item listed)).cons rfl).append_cons rfl .nil

end Json

open Json

theorem Event.reads_lexemes (event : Event) : Reads Event.shape.read event.lexemes event := by
  have sets : Sets Event.shape.blank (Event.shape.members.zip [
      [.natural event.id], [.natural event.userId], [.string event.title.toList], [.string event.description.toList],
      [event.onTime.lexeme], [event.offTime.lexeme], [Json.optional Instant.lexeme event.notifyTime],
      [.boolean event.notified]]) event :=
    .cons (reads_natural _).member <|
    .cons (reads_natural _).member <|
    .cons (reads_string _).member <|
    .cons (reads_string _).member <|
    .cons (reads_instant _).member <|
    .cons (reads_instant _).member <|
    .cons (reads_optionalInstant _).member <|
    .cons (reads_boolean _).member (.nil event)
  exact Shape.read_objectOf (by decide) rfl sets

theorem Draft.reads_lexemes (draft : Draft) : Reads Draft.shape.read draft.lexemes draft := by
  have sets : Sets Draft.shape.blank (Draft.shape.members.zip [
      [.natural draft.id], [.natural draft.userId], [.string draft.title.toList], [.string draft.description.toList],
      [Json.optional Instant.lexeme draft.onTime], [Json.optional Instant.lexeme draft.offTime],
      [Json.optional Instant.lexeme draft.notifyTime]]) draft :=
    .cons (reads_natural _).member <|
    .cons (reads_natural _).member <|
    .cons (reads_string _).member <|
    .cons (reads_string _).member <|
    .cons (reads_optionalInstant _).member <|
    .cons (reads_optionalInstant _).member <|
    .cons (reads_optionalInstant _).member (.nil draft)
  exact Shape.read_objectOf (by decide) rfl sets

def Notice.contents (notice : Notice) : List (List Lexeme) :=
  [[.natural notice.id], [.string notice.title.toList], [notice.date.lexeme], [.natural notice.userId]]

theorem Notice.sets_contents (notice : Notice) :
    Sets Notice.shape.blank (Notice.shape.members.zip notice.contents) notice :=
  .cons (reads_natural _).member <|
  .cons (reads_string _).member <|
  .cons (reads_instant _).member <|
  .cons (reads_natural _).member (.nil notice)

theorem Notice.reads_lexemes (notice : Notice) : Reads Notice.shape.read notice.lexemes notice :=
  Shape.read_objectOf (by decide) rfl notice.sets_contents

theorem Notice.reads_listOf (notice : Notice) : Reads Notice.shape.read (listOf notice.contents) notice := by
  refine Shape.read_listOf rfl notice.sets_contents ?_
  intro field listed rest
  have among := (List.of_mem_zip listed).2
  simp only [contents, List.mem_cons, List.not_mem_nil, or_false] at among
  rcases among with same | same | same | same <;> rw [same] <;> rfl

open Text.RawText (ofChars)

theorem Event.readWhole_lexemes (event : Event) :
    readWhole Event.shape.read (ofChars (write event.lexemes)) = .ok event :=
  readWhole_write (apart_of_single (by simp)) event.reads_lexemes

theorem Draft.readWhole_lexemes (draft : Draft) :
    readWhole Draft.shape.read (ofChars (write draft.lexemes)) = .ok draft :=
  readWhole_write (apart_of_single (by simp)) draft.reads_lexemes

theorem Notice.decode_listOf (notice : Notice) :
    Notice.decode (ofChars (write (listOf notice.contents))) = .ok notice :=
  readWhole_write (apart_listOf (by simp [contents])) notice.reads_listOf

theorem Notice.decode_encode (notice : Notice) : Notice.decode (ofChars notice.encode) = .ok notice :=
  readWhole_write (apart_of_single (by simp)) notice.reads_lexemes

end Datebook
