import BridgeState.Proofs.EncodedTexts
import BridgeState.Settings.Database

/-!
# Settings written as keywords and values

Nothing is escaped where settings are written as keywords and values. What stands between two values
is a mark, and a value may hold a mark itself: the text can be read in another way then. It tells the
settings exactly where no value holds the mark in front of it or the one behind it.
-/

namespace BridgeState

set_option autoImplicit false

open Text

inductive Keyword where
  | portNumber
  | user
  | password
  | sslMode
deriving Repr, DecidableEq

def Keyword.name : Keyword → List Char
  | .portNumber => "port".toList
  | .user => "user".toList
  | .password => "password".toList
  | .sslMode => "sslmode".toList

/-- What stands between two values. The number stands within the mark in front of the database: a
text in which something else stands in its place is no such mark. -/
inductive Mark where
  | database (portNumber : Int)
  | user
  | password
  | sslMode
deriving Repr, DecidableEq

namespace Mark

def keyword : Mark → Keyword
  | .database _ => .portNumber
  | .user => .user
  | .password => .password
  | .sslMode => .sslMode

def databaseKeyword : List Char := "dbname=".toList

def ending : Mark → List Char
  | .database portNumber => (toString portNumber).toList ++ ' ' :: databaseKeyword
  | _ => []

def text (mark : Mark) : List Char :=
  ' ' :: (mark.keyword.name ++ '=' :: mark.ending)

end Mark

/-! ## Marks do not overlap -/

namespace Mark

theorem name_plain (keyword : Keyword) : ' ' ∉ keyword.name ∧ '=' ∉ keyword.name := by
  cases keyword with
  | portNumber => decide
  | user => decide
  | password => decide
  | sslMode => decide

/-- No keyword begins as the one of the database does. -/
theorem name_start (keyword : Keyword) :
    ∃ first rest, keyword.name = first :: rest ∧ first ≠ 'd' := by
  cases keyword with
  | portNumber => exact ⟨'p', "ort".toList, by decide, by decide⟩
  | user => exact ⟨'u', "ser".toList, by decide, by decide⟩
  | password => exact ⟨'p', "assword".toList, by decide, by decide⟩
  | sslMode => exact ⟨'s', "slmode".toList, by decide, by decide⟩

theorem name_unique {one other : Keyword} (same : one.name = other.name) : one = other := by
  cases one <;> cases other <;> first | rfl | exact absurd same (by decide)

theorem database_of_keyword {mark : Mark} (isNumber : mark.keyword = .portNumber) :
    ∃ portNumber, mark = .database portNumber := by
  cases mark with
  | database portNumber => exact ⟨portNumber, rfl⟩
  | user => nomatch isNumber
  | password => nomatch isNumber
  | sslMode => nomatch isNumber

theorem eq_without_number {first second : Mark} (same : first.keyword = second.keyword)
    (noNumber : second.keyword ≠ .portNumber) : first = second := by
  cases second with
  | database portNumber => exact absurd rfl noNumber
  | user => cases first <;> first | rfl | nomatch same
  | password => cases first <;> first | rfl | nomatch same
  | sslMode => cases first <;> first | rfl | nomatch same

theorem eq_of_keyword {first second : Mark} (same : first.keyword = second.keyword)
    {after behind : List Char} (endings : first.ending ++ after = second.ending ++ behind) :
    first = second ∧ after = behind := by
  by_cases isNumber : second.keyword = .portNumber
  · obtain ⟨one, rfl⟩ := database_of_keyword (same.trans isNumber)
    obtain ⟨other, rfl⟩ := database_of_keyword isNumber
    simp only [ending, List.append_assoc, List.cons_append] at endings
    have cuts := congrArg (cut ' ') endings
    rw [cut_append ' ' _ _ (Numbers.no_blank one), cut_append ' ' _ _ (Numbers.no_blank other),
      Prod.mk.injEq, Option.some.injEq, List.append_cancel_left_eq] at cuts
    exact ⟨congrArg Mark.database (Numbers.text_unique cuts.1), cuts.2⟩
  · obtain rfl := eq_without_number same isNumber
    exact ⟨rfl, List.append_cancel_left endings⟩

/-- No mark begins another one. -/
theorem prefix_free {first second : Mark} {after behind : List Char}
    (same : first.text ++ after = second.text ++ behind) : first = second ∧ after = behind := by
  simp only [text, List.append_assoc, List.cons_append, List.cons.injEq, true_and] at same
  have cuts := congrArg (cut '=') same
  rw [cut_append '=' _ _ (name_plain _).2, cut_append '=' _ _ (name_plain _).2,
    Prod.mk.injEq, Option.some.injEq] at cuts
  exact eq_of_keyword (name_unique cuts.1) cuts.2

/-- A blank that is the only one of a text stands in one place. -/
theorem behind_only_blank {word tail front back : List Char} (noBlank : ' ' ∉ word)
    (noneBehind : ' ' ∉ tail) (same : word ++ ' ' :: tail = front ++ ' ' :: back) :
    back = tail := by
  rcases List.append_eq_append_iff.mp same with ⟨gap, -, rest⟩ | ⟨gap, isWord, rest⟩
  · cases gap with
    | nil => exact (List.cons.inj rest).2.symm
    | cons c gap =>
        have isTail := (List.cons.inj rest).2
        rw [isTail] at noneBehind
        simp at noneBehind
  · cases gap with
    | nil => exact (List.cons.inj rest).2
    | cons c gap =>
        have isBlank := (List.cons.inj rest).1
        rw [isWord, ← isBlank] at noBlank
        simp at noBlank

theorem no_blank_but_in_ending {mark : Mark} (absent : ' ' ∉ mark.ending) :
    ' ' ∉ mark.keyword.name ++ '=' :: mark.ending := by
  rw [List.mem_append, List.mem_cons, not_or, not_or]
  exact ⟨(name_plain mark.keyword).1, by decide, absent⟩

/-- A blank inside a mark is the one in front of the keyword of the database. -/
theorem behind_inner_blank {mark : Mark} {front back : List Char} (filled : front ≠ [])
    (split : mark.text = front ++ ' ' :: back) : back = databaseKeyword := by
  obtain ⟨first, front, rfl⟩ := List.exists_cons_of_ne_nil filled
  have isSplit := (List.cons.inj split).2
  have inside : ' ' ∈ mark.keyword.name ++ '=' :: mark.ending := by
    rw [isSplit]
    simp
  cases mark with
  | database number =>
      have noBlank : ' ' ∉ Keyword.portNumber.name ++ '=' :: (toString number).toList := by
        rw [List.mem_append, List.mem_cons, not_or, not_or]
        exact ⟨by decide, by decide, Numbers.no_blank number⟩
      have arranged : (Keyword.portNumber.name ++ '=' :: (toString number).toList) ++
          ' ' :: databaseKeyword = front ++ ' ' :: back := by
        rw [List.append_assoc, List.cons_append]
        exact isSplit
      exact behind_only_blank noBlank (by decide) arranged
  | user => exact absurd inside (no_blank_but_in_ending List.not_mem_nil)
  | password => exact absurd inside (no_blank_but_in_ending List.not_mem_nil)
  | sslMode => exact absurd inside (no_blank_but_in_ending List.not_mem_nil)

/-- A mark that begins behind the beginning of another one begins behind its end. -/
theorem no_overlap {first second : Mark} {between after behind : List Char}
    (filled : between ≠ [])
    (same : first.text ++ after = between ++ (second.text ++ behind)) :
    ∃ gap, between = first.text ++ gap ∧ after = gap ++ (second.text ++ behind) := by
  rcases List.append_eq_append_iff.mp same with ⟨gap, isBetween, isAfter⟩ | ⟨rest, isText, isRest⟩
  · exact ⟨gap, isBetween, isAfter⟩
  · cases rest with
    | nil =>
        rw [List.append_nil] at isText
        exact ⟨[], by rw [isText, List.append_nil], isRest.symm⟩
    | cons c rest =>
        -- The second mark would begin with the blank in front of the keyword of the database.
        exfalso
        obtain ⟨isBlank, isSecond⟩ := List.cons.inj isRest
        rw [← isBlank] at isText
        obtain ⟨initial, more, isName, other⟩ := name_start second.keyword
        rw [behind_inner_blank filled isText, isName] at isSecond
        exact other (List.cons.inj isSecond).1

/-- Where two marks stand in one text. -/
theorem places {first second : Mark} {before after front behind : List Char}
    (same : before ++ (first.text ++ after) = front ++ (second.text ++ behind)) :
    (∃ gap, before = front ++ (second.text ++ gap) ∧ behind = gap ++ (first.text ++ after)) ∨
      (before = front ∧ first = second ∧ after = behind) ∨
      (∃ gap, front = before ++ (first.text ++ gap) ∧ after = gap ++ (second.text ++ behind)) := by
  rcases List.append_eq_append_iff.mp same with ⟨between, isFront, rest⟩ | ⟨between, isBefore, rest⟩
  · by_cases filled : between = []
    · subst filled
      rw [List.append_nil] at isFront
      exact Or.inr (Or.inl ⟨isFront.symm, prefix_free rest⟩)
    · obtain ⟨gap, isBetween, isAfter⟩ := no_overlap filled rest
      exact Or.inr (Or.inr ⟨gap, by rw [isFront, isBetween], isAfter⟩)
  · by_cases filled : between = []
    · subst filled
      rw [List.append_nil] at isBefore
      obtain ⟨same, rest⟩ := prefix_free rest
      exact Or.inr (Or.inl ⟨isBefore, same.symm, rest.symm⟩)
    · obtain ⟨gap, isBetween, isBehind⟩ := no_overlap filled rest
      exact Or.inl ⟨gap, by rw [isBefore, isBetween], isBehind⟩

def Free (keyword : Keyword) (text : List Char) : Prop :=
  ∀ mark : Mark, mark.keyword = keyword → ¬mark.text <:+: text

theorem Free.not_split {keyword : Keyword} {text front back : List Char} {mark : Mark}
    (free : Free keyword text) (isKeyword : mark.keyword = keyword) :
    text ≠ front ++ (mark.text ++ back) := by
  intro split
  exact free mark isKeyword ⟨front, back, by rw [split, List.append_assoc]⟩

end Mark

/-! ## Values between marks -/

/-- Values, each but the last one with the mark behind it. -/
inductive Series where
  | last (value : List Char)
  | next (value : List Char) (mark : Mark) (rest : Series)
deriving Repr, DecidableEq

namespace Series

def text : Series → List Char
  | last value => value
  | next value mark rest => value ++ (mark.text ++ rest.text)

def keywords : Series → List Keyword
  | last _ => []
  | next _ mark rest => mark.keyword :: rest.keywords

def first : Series → List Char
  | last value => value
  | next value _ _ => value

def behind : Series → List Char
  | last _ => []
  | next _ mark rest => mark.text ++ rest.text

def startingWith (value : List Char) : Series → Series
  | last _ => last value
  | next _ mark rest => next value mark rest

/-- Neither of the values beside a mark holds a mark with the same keyword. -/
def Separate : Series → Prop
  | last _ => True
  | next value mark rest =>
    Mark.Free mark.keyword value ∧ Mark.Free mark.keyword rest.first ∧ rest.Separate

theorem text_eq (series : Series) : series.text = series.first ++ series.behind := by
  cases series with
  | last value => exact (List.append_nil value).symm
  | next value mark rest => rfl

@[simp] theorem text_starting_with (value : List Char) (series : Series) :
    (series.startingWith value).text = value ++ series.behind := by
  cases series with
  | last other => exact (List.append_nil value).symm
  | next other mark rest => rfl

@[simp] theorem keywords_starting_with (value : List Char) (series : Series) :
    (series.startingWith value).keywords = series.keywords := by
  cases series with
  | last other => rfl
  | next other mark rest => rfl

theorem next_of_keywords {series : Series} {keyword : Keyword} {keywords : List Keyword}
    (alike : series.keywords = keyword :: keywords) :
    ∃ value mark rest, series = .next value mark rest ∧ mark.keyword = keyword ∧
      rest.keywords = keywords := by
  cases series with
  | last value => cases alike
  | next value mark rest =>
      obtain ⟨isKeyword, alikeRest⟩ := List.cons.inj alike
      exact ⟨value, mark, rest, rfl, isKeyword, alikeRest⟩

theorem last_of_keywords {series : Series} (alike : series.keywords = []) :
    ∃ value, series = .last value := by
  cases series with
  | last value => exact ⟨value, rfl⟩
  | next value mark rest => cases alike

/-- Separate values leave no room for one mark more: each mark would have to stand behind its own
place, and the last one behind the end. -/
theorem no_room {mark : Mark} {front : List Char} {series other : Series}
    (distinct : (mark.keyword :: series.keywords).Nodup)
    (alike : other.keywords = series.keywords) (free : Mark.Free mark.keyword series.first)
    (separate : series.Separate) : series.text ≠ front ++ (mark.text ++ other.text) := by
  induction series generalizing mark front other with
  | last value => exact free.not_split rfl
  | next value following rest ih =>
      intro same
      cases other with
      | last value' => cases alike
      | next value' following' rest' =>
          obtain ⟨isKeyword, alikeRest⟩ := List.cons.inj alike
          obtain ⟨-, freeRest, separateRest⟩ := separate
          rcases Mark.places same with ⟨gap, within, -⟩ | ⟨-, isMark, -⟩ | ⟨gap, -, later⟩
          · exact free.not_split rfl within
          · rw [isMark] at distinct
            simp [keywords] at distinct
          · have isLater : rest.text =
                (gap ++ (mark.text ++ value')) ++ (following'.text ++ rest'.text) := by
              simpa only [text, List.append_assoc] using later
            have distinctRest := (List.nodup_cons.mp distinct).2
            rw [keywords, ← isKeyword] at distinctRest
            rw [← isKeyword] at freeRest
            exact ih distinctRest alikeRest freeRest separateRest isLater

/-- Separate values are told by their text. -/
theorem eq_of_text {series other : Series} (distinct : series.keywords.Nodup)
    (alike : other.keywords = series.keywords) (separate : series.Separate)
    (same : other.text = series.text) : other = series := by
  induction series generalizing other with
  | last value =>
      cases other with
      | last value' => exact congrArg last same
      | next value' mark' rest' => cases alike
  | next value mark rest ih =>
      cases other with
      | last value' => cases alike
      | next value' mark' rest' =>
          obtain ⟨isKeyword, alikeRest⟩ := List.cons.inj alike
          obtain ⟨freeBefore, freeBehind, separateRest⟩ := separate
          rcases Mark.places same with ⟨gap, -, later⟩ | ⟨isValue, isMark, isRest⟩ | ⟨gap, within, -⟩
          · rw [keywords, ← isKeyword] at distinct
            rw [← isKeyword] at freeBehind
            exact absurd later (no_room distinct alikeRest freeBehind separateRest)
          · rw [isValue, isMark, ih (List.nodup_cons.mp distinct).2 alikeRest separateRest isRest]
          · exact absurd within (freeBefore.not_split isKeyword)

/-- Where a value holds a mark of a keyword beside it, another series has the same text. -/
theorem separate_of_unique {series : Series}
    (unique : ∀ other : Series, other.keywords = series.keywords → other.text = series.text →
      other = series) : series.Separate := by
  induction series with
  | last value => trivial
  | next value mark rest ih =>
      refine ⟨?_, ?_, ih ?_⟩
      · intro found isKeyword inside
        obtain ⟨front, back, split⟩ := inside
        have whole := unique
          (.next front found (rest.startingWith (back ++ (mark.text ++ rest.first))))
          (by simp [keywords, isKeyword]) (by simp [text, text_eq rest, ← split])
        have isFront : front = value := (Series.next.inj whole).1
        rw [← split] at isFront
        simp [Mark.text] at isFront
      · intro found isKeyword inside
        obtain ⟨front, back, split⟩ := inside
        have whole := unique
          (.next (value ++ (mark.text ++ front)) found (rest.startingWith back))
          (by simp [keywords, isKeyword]) (by simp [text, text_eq rest, ← split])
        have isValue : value ++ (mark.text ++ front) = value := (Series.next.inj whole).1
        simp [Mark.text] at isValue
      · intro other alike same
        have whole := unique (.next value mark other) (by rw [keywords, keywords, alike])
          (by rw [text, text, same])
        cases whole
        rfl

end Series

/-! ## Settings -/

theorem Mark.free_of_no_blank (keyword : Keyword) {text : List Char} (noBlank : ' ' ∉ text) :
    Mark.Free keyword text := by
  intro mark _ inside
  exact noBlank (inside.subset List.mem_cons_self)

namespace DatabaseSettings

structure SameAccess (one other : DatabaseSettings) : Prop where
  host : one.host = other.host
  portNumber : one.portNumber = other.portNumber
  database : one.database = other.database
  user : one.user = other.user
  password : one.password = other.password
  sslMode : one.sslMode = other.sslMode

def series (settings : DatabaseSettings) : Series :=
  .next settings.host.toList (.database settings.portNumber) <|
    .next settings.database.toList .user <|
      .next settings.user.toList .password <|
        .next settings.password.toList .sslMode <| .last settings.sslMode.toList

theorem dsn_series (settings : DatabaseSettings) :
    settings.dsn.toList = "host=".toList ++ settings.series.text := by
  have parts : settings.dsn = "host=" ++ settings.host ++ " port=" ++
      toString settings.portNumber ++ " dbname=" ++ settings.database ++ " user=" ++
        settings.user ++ " password=" ++ settings.password ++ " sslmode=" ++
          settings.sslMode := rfl
  have port : " port=".toList = ' ' :: (Keyword.portNumber.name ++ ['=']) := by decide
  have database : " dbname=".toList = ' ' :: Mark.databaseKeyword := by decide
  have user : " user=".toList = Mark.user.text := by decide
  have password : " password=".toList = Mark.password.text := by decide
  have sslMode : " sslmode=".toList = Mark.sslMode.text := by decide
  have number : (Mark.database settings.portNumber).text = ' ' :: (Keyword.portNumber.name ++
      '=' :: ((toString settings.portNumber).toList ++ ' ' :: Mark.databaseKeyword)) := rfl
  simp only [parts, String.toList_append, port, database, user, password, sslMode, series,
    Series.text, number, List.append_assoc, List.cons_append, List.nil_append]

theorem same_dsn_iff (one other : DatabaseSettings) :
    one.dsn = other.dsn ↔ one.series.text = other.series.text := by
  rw [← String.toList_inj, dsn_series, dsn_series, List.append_cancel_left_eq]

theorem same_series_iff (one other : DatabaseSettings) :
    one.series = other.series ↔ one.SameAccess other := by
  constructor
  · intro same
    simp only [series, Series.next.injEq, Series.last.injEq, Mark.database.injEq,
      String.toList_inj, true_and] at same
    obtain ⟨host, portNumber, database, user, password, sslMode⟩ := same
    exact ⟨host, portNumber, database, user, password, sslMode⟩
  · intro same
    simp only [series, same.host, same.portNumber, same.database, same.user, same.password,
      same.sslMode]

theorem series_keywords (settings : DatabaseSettings) :
    settings.series.keywords = [.portNumber, .user, .password, .sslMode] :=
  rfl

/-- Every series with these keywords is the one of some settings. -/
theorem exists_series {values : Series}
    (alike : values.keywords = [.portNumber, .user, .password, .sslMode]) :
    ∃ settings : DatabaseSettings, settings.series = values := by
  obtain ⟨host, numberMark, rest, rfl, isNumber, alike⟩ := Series.next_of_keywords alike
  obtain ⟨database, userMark, rest, rfl, isUser, alike⟩ := Series.next_of_keywords alike
  obtain ⟨user, passwordMark, rest, rfl, isPassword, alike⟩ := Series.next_of_keywords alike
  obtain ⟨password, modeMark, rest, rfl, isMode, alike⟩ := Series.next_of_keywords alike
  obtain ⟨sslMode, rfl⟩ := Series.last_of_keywords alike
  obtain ⟨portNumber, rfl⟩ := Mark.database_of_keyword isNumber
  obtain rfl : userMark = .user := Mark.eq_without_number isUser (by decide)
  obtain rfl : passwordMark = .password := Mark.eq_without_number isPassword (by decide)
  obtain rfl : modeMark = .sslMode := Mark.eq_without_number isMode (by decide)
  refine ⟨⟨.ofList host, portNumber, .ofList database, .ofList user, .ofList password, 0,
    .ofList sslMode⟩, ?_⟩
  simp only [series, String.toList_ofList]

/-- Settings of which no value holds the mark in front of it or the one behind it. -/
def Separate (settings : DatabaseSettings) : Prop :=
  settings.series.Separate

/-- Settings without blanks are written so that their marks can be told. -/
theorem separate_of_no_blank {settings : DatabaseSettings} (host : ' ' ∉ settings.host.toList)
    (database : ' ' ∉ settings.database.toList) (user : ' ' ∉ settings.user.toList)
    (password : ' ' ∉ settings.password.toList) (sslMode : ' ' ∉ settings.sslMode.toList) :
    settings.Separate := by
  have free (keyword : Keyword) {value : List Char} (noBlank : ' ' ∉ value) :=
    Mark.free_of_no_blank keyword noBlank
  exact ⟨free _ host, free _ database, free _ database, free _ user, free _ user, free _ password,
    free _ password, free _ sslMode, trivial⟩

/-- The keywords and values tell the settings, but for the timeout, exactly where no value holds the
mark in front of it or the one behind it. -/
theorem dsn_tells_settings_iff (settings : DatabaseSettings) :
    (∀ other : DatabaseSettings, other.dsn = settings.dsn → other.SameAccess settings) ↔
      settings.Separate := by
  constructor
  · intro told
    apply Series.separate_of_unique
    intro values alike same
    obtain ⟨other, rfl⟩ := exists_series alike
    rw [same_series_iff]
    exact told other ((same_dsn_iff other settings).mpr same)
  · intro separate other same
    rw [← same_series_iff]
    have distinct : settings.series.keywords.Nodup := by
      rw [series_keywords]
      decide
    exact Series.eq_of_text distinct rfl separate ((same_dsn_iff other settings).mp same)

/-- A mode within a password, and a password that ends before it. -/
theorem dsn_of_two_settings :
    let one := { standard with password := "a sslmode=b", sslMode := "c" }
    let other := { standard with password := "a", sslMode := "b sslmode=c" }
    one.dsn = other.dsn ∧ ¬one.SameAccess other := by
  refine ⟨by decide, ?_⟩
  intro same
  have password := same.password
  revert password
  decide

end DatabaseSettings

end BridgeState
