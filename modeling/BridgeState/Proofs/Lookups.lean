import BridgeState.Http.Service
import BridgeState.Proofs.RecordCodec

/-!
# Rows looked up by an id

A message or an account is shown under the path of a folder with its id behind. A spelling of an id
is a step of a path: it is never empty and holds no slash, so the path leads to the row whatever the
spelling, and no other endpoint is in the way. Whether the locator of a request can be read is
decided before its path.
-/

namespace BridgeState

set_option autoImplicit false

open Text

namespace Url

def authorityOf (text : List Char) : List Char :=
  (splitAuthority (splitScheme (cleaned text)).2).1

def checkAuthority (authority : List Char) : Except UrlFault Unit := do
  checkBrackets authority
  if authority.any fun c => delimiterForms.contains c.toNat then
    throw (.ambiguousAuthority (String.ofList authority))

/-- Whether a text is a locator, its authority alone decides. -/
theorem parse_check (text : List Char) :
    (parse text).map (fun _ => ()) = checkAuthority (authorityOf text) := by
  simp only [parse, checkAuthority, authorityOf]
  cases checkBrackets (splitAuthority (splitScheme (cleaned text)).2).1 with
  | error fault => rfl
  | ok =>
      by_cases ambiguous : ((splitAuthority (splitScheme (cleaned text)).2).1.any fun c =>
          delimiterForms.contains c.toNat) = true
      · simp only [ambiguous]
        rfl
      · simp only [ambiguous]
        rfl

theorem drop_while_stops (drops : Char → Bool) (before after : List Char) (c : Char)
    (stops : drops c = false) :
    (before ++ c :: after).dropWhile drops = before.dropWhile drops ++ c :: after := by
  rw [List.dropWhile_append]
  split
  · rename_i gone
    rw [List.isEmpty_iff.mp gone, List.dropWhile_cons_of_neg (by simp [stops]), List.nil_append]
  · rfl

theorem take_while_stops (takes : Char → Bool) (before after : List Char) (c : Char)
    (stops : takes c = false) :
    (before ++ c :: after).takeWhile takes = before.takeWhile takes := by
  induction before with
  | nil => simp [stops]
  | cons d rest ih => simp only [List.cons_append, List.takeWhile_cons, ih]

theorem cut_within (separator : Char) (before after : List Char) :
    ∃ name rest, after.length ≤ rest.length ∧ ∀ behind,
      cut separator (before ++ separator :: after ++ behind) = (name, some (rest ++ behind)) := by
  induction before with
  | nil => exact ⟨[], after, Nat.le_refl _, fun behind => by simp [cut]⟩
  | cons c before ih =>
      -- The cut may come before the separator that is shown, never behind it.
      by_cases same : c = separator
      · refine ⟨[], before ++ separator :: after, ?_, fun behind => by simp [cut, same]⟩
        simp only [List.length_append, List.length_cons]
        omega
      · obtain ⟨name, rest, long, cuts⟩ := ih
        refine ⟨c :: name, rest, long, fun behind => ?_⟩
        have further := cuts behind
        simp only [List.cons_append, List.append_assoc] at further ⊢
        simp [cut, same, further]

theorem split_scheme_within (before after : List Char) :
    ∃ rest : List Char, after.length ≤ rest.length ∧ ∀ behind,
      (splitScheme (before ++ ':' :: after ++ behind)).2 = rest ++ behind := by
  obtain ⟨name, rest, long, cuts⟩ := cut_within ':' before after
  have whole : after.length ≤ (before ++ ':' :: after).length := by
    simp only [List.length_append, List.length_cons]
    omega
  cases name with
  | nil => exact ⟨_, whole, fun behind => by simp only [splitScheme, cuts]⟩
  | cons first more =>
      by_cases isScheme : (isAsciiLetter first && (first :: more).all isSchemeChar) = true
      · exact ⟨rest, long, fun behind => by simp only [splitScheme, cuts, isScheme, if_true]⟩
      · exact ⟨_, whole, fun behind => by simp only [splitScheme, cuts, isScheme]; rfl⟩

/-- An authority ends where a path begins. -/
theorem split_authority_before_path (place : List Char) (long : 2 ≤ place.length)
    (one other : List Char) :
    (splitAuthority (place ++ '/' :: one)).1 = (splitAuthority (place ++ '/' :: other)).1 := by
  match place, long with
  | first :: second :: rest, _ =>
    have ends : (!endsAuthority '/') = false := by decide
    by_cases slashes : first = '/' ∧ second = '/'
    · obtain ⟨rfl, rfl⟩ := slashes
      simp only [List.cons_append, splitAuthority,
        take_while_stops (fun c => !endsAuthority c) rest _ '/' ends]
    · have none (text : List Char) : (splitAuthority (first :: second :: text)).1 = [] := by
        unfold splitAuthority
        split
        · rename_i isSlashes
          cases isSlashes
          exact absurd ⟨rfl, rfl⟩ slashes
        · rfl
      exact (none _).trans (none _).symm

theorem authority_before_path (scheme host one other : List Char) :
    authorityOf (scheme ++ "://".toList ++ host ++ '/' :: one) =
      authorityOf (scheme ++ "://".toList ++ host ++ '/' :: other) := by
  -- What is cleaned away in front ends at the colon at the latest.
  have cleans (path : List Char) :
      cleaned (scheme ++ "://".toList ++ host ++ '/' :: path) =
        (scheme.dropWhile isLeadIn).filter (fun c => !isIgnored c) ++
          ':' :: ('/' :: '/' :: host.filter fun c => !isIgnored c) ++
            '/' :: path.filter fun c => !isIgnored c := by
    have stops : isLeadIn ':' = false := by decide
    have front := drop_while_stops isLeadIn scheme ('/' :: '/' :: (host ++ '/' :: path)) ':' stops
    have shape : scheme ++ "://".toList ++ host ++ '/' :: path =
        scheme ++ ':' :: '/' :: '/' :: (host ++ '/' :: path) := by simp
    rw [cleaned, shape, front]
    simp [isIgnored]
  obtain ⟨rest, long, splits⟩ := split_scheme_within
    ((scheme.dropWhile isLeadIn).filter fun c => !isIgnored c)
    ('/' :: '/' :: host.filter fun c => !isIgnored c)
  simp only [authorityOf, cleans, splits]
  refine split_authority_before_path rest ?_ _ _
  simp only [List.length_cons] at long
  omega

end Url

/-- A spelling of an id is a step of a path: it is not empty, and there is no slash in it. -/
theorem step_of_spelling {spelled : String} {hex : HexString}
    (spells : HexString.normalize (spelled : Text) = .ok hex) :
    spelled.toList ≠ [] ∧ '/' ∉ spelled.toList := by
  obtain ⟨literal, isLiteral, stripped, -⟩ := HexString.literal_of_normalize spells
  have trimmed : trim isStrippable spelled.toList = literal := by
    rw [← shownChars_ofString, trim_shown, stripped, shownChars_ofChars]
  obtain ⟨mark, digits, isText, isMark, -, all⟩ := isLiteral
  constructor
  · intro empty
    rw [empty, isText] at trimmed
    cases trimmed
  · intro slash
    obtain ⟨before, after, split, blankBefore, blankAfter⟩ :=
      trim_between_blanks isStrippable spelled.toList
    have notBlank : isStrippable '/' = false := by decide
    rw [split, trimmed, isText, List.mem_append, List.mem_append, List.mem_cons, List.mem_cons]
      at slash
    rcases slash with (inBefore | isZero | rfl | inDigits) | inAfter
    · rw [List.all_eq_true.mp blankBefore _ inBefore] at notBlank
      cases notBlank
    · cases isZero
    · rcases isMark with isMark | isMark <;> cases isMark
    · cases all '/' inDigits
    · rw [List.all_eq_true.mp blankAfter _ inAfter] at notBlank
      cases notBlank

namespace Http

/-- What is shown by an id. -/
inductive Shown where
  | message
  | account
deriving Repr, DecidableEq

namespace Shown

def folder : Shown → String
  | .message => "/api/public/messages/"
  | .account => "/api/public/accounts/"

def collection : Shown → Collection
  | .message => .messages
  | .account => .accounts

def endpoint : Shown → String → Endpoint
  | .message => .message
  | .account => .account

end Shown

theorem step_behind_folder (folder : String) (step : List Char) (nonempty : step ≠ [])
    (noSlash : '/' ∉ step) :
    Endpoint.stepBehind folder (folder.toList ++ step) = some (String.ofList step) := by
  have isPrefix : folder.toList.isPrefixOf (folder.toList ++ step) = true := by simp
  have behind : (folder.toList ++ step).drop folder.length = step := by
    rw [← String.length_toList, List.drop_left]
  have notEmpty : step.isEmpty = false := by simpa using nonempty
  have noSlash : step.contains '/' = false := by simpa using noSlash
  simp only [Endpoint.stepBehind, isPrefix, behind, notEmpty, noSlash]
  rfl

/-- No endpoint with a path of its own lies in a folder. -/
theorem fixed_outside_folders (shown : Shown) :
    ∀ entry ∈ Endpoint.fixed, shown.folder.toList.isPrefixOf entry.1.toList = false := by
  cases shown <;> decide

theorem fixed_of_folder (shown : Shown) (step : List Char) (nonempty : step ≠ []) :
    Endpoint.fixed.find? (fun entry =>
      entry.1.toList == Path.withoutLineEnd (shown.folder.toList ++ step)) = none := by
  -- A line end that is taken off is part of the step, so the folder is still in front.
  obtain ⟨rest, isRest⟩ : ∃ rest, Path.withoutLineEnd (shown.folder.toList ++ step) =
      shown.folder.toList ++ rest := by
    unfold Path.withoutLineEnd
    split
    · exact ⟨step.dropLast, List.dropLast_append_of_ne_nil nonempty⟩
    · exact ⟨step, rfl⟩
  rw [List.find?_eq_none, isRest]
  intro entry member isPath
  have outside := fixed_outside_folders shown entry member
  rw [eq_of_beq isPath, List.isPrefixOf_iff_prefix.mpr (List.prefix_append _ _)] at outside
  cases outside

theorem at_path_of_step (shown : Shown) (step : List Char) (nonempty : step ≠ [])
    (noSlash : '/' ∉ step) :
    Endpoint.atPath (shown.folder.toList ++ step) =
      some (shown.endpoint (String.ofList step)) := by
  have behind := step_behind_folder shown.folder step nonempty noSlash
  unfold Endpoint.atPath
  rw [fixed_of_folder shown step nonempty]
  cases shown with
  | message =>
      simp only [Shown.folder] at behind ⊢
      rw [behind]
      rfl
  | account =>
      have elsewhere : Endpoint.stepBehind "/api/public/messages/"
          ("/api/public/accounts/".toList ++ step) = none := rfl
      simp only [Shown.folder] at behind ⊢
      rw [behind, elsewhere]
      rfl

def Shown.answer {σ : Type} [Backend σ] : Shown → String → σ → Reply σ Response
  | .message => messageAnswer
  | .account => accountAnswer

/-- The same request, asking for the row under an id in that spelling. -/
def Request.forRow (shown : Shown) (spelled : String) (request : Request) : Request :=
  { request with method := "GET", path := (shown.folder ++ spelled).toList }

theorem answer_by_authority {σ : Type} [Backend σ] (request : Request) (engine : Engine σ) :
    Service.answer request engine =
      match Url.checkAuthority (Url.authorityOf (request.locatorOf request.path)) with
      | .error fault => (.error (.locator fault), engine)
      | .ok () => Service.route request engine := by
  rw [← Url.parse_check, Service.answer]
  cases Url.parse (request.locatorOf request.path) <;> rfl

theorem authority_for_row (shown : Shown) (request : Request) (one other : String) :
    Url.authorityOf ((request.forRow shown one).locatorOf (request.forRow shown one).path) =
      Url.authorityOf
        ((request.forRow shown other).locatorOf (request.forRow shown other).path) := by
  have slashed : ∃ folder : List Char, shown.folder.toList = '/' :: folder := by
    cases shown <;> exact ⟨_, rfl⟩
  obtain ⟨folder, isFolder⟩ := slashed
  have locator (spelled : String) :
      ∃ path, (request.forRow shown spelled).locatorOf (request.forRow shown spelled).path =
        request.scheme ++ "://".toList ++ request.host ++ '/' :: path := by
    refine ⟨Percent.encode Request.isWithinPath (folder ++ spelled.toList) ++
      (if request.query.isEmpty then [] else '?' :: request.query), ?_⟩
    have sameHost : (request.forRow shown spelled).host = request.host := rfl
    have slash : Percent.encode Request.isWithinPath ('/' :: (folder ++ spelled.toList)) =
        '/' :: Percent.encode Request.isWithinPath (folder ++ spelled.toList) := by
      simp [Percent.encode, Request.isWithinPath]
    rw [Request.locatorOf, sameHost]
    simp only [Request.forRow, String.toList_append, isFolder, List.cons_append, slash,
      List.append_assoc]
  obtain ⟨onePath, isOne⟩ := locator one
  obtain ⟨otherPath, isOther⟩ := locator other
  rw [isOne, isOther, Url.authority_before_path]

section Answers

variable {σ : Type} [Backend σ] (shown : Shown) {spelled : String} {hex : HexString}
  (spells : HexString.normalize (spelled : Text) = .ok hex) (request : Request) (engine : Engine σ)

include spells

theorem row_answer_spelled (state : σ) :
    shown.answer spelled state = shown.answer hex.text state := by
  cases shown <;>
    simp only [Shown.answer, messageAnswer, accountAnswer, rowAnswer, spells,
      HexString.normalize_text]

theorem at_path_of_spelling :
    Endpoint.atPath (request.forRow shown spelled).path = some (shown.endpoint spelled) := by
  obtain ⟨nonempty, noSlash⟩ := step_of_spelling spells
  have found := at_path_of_step shown spelled.toList nonempty noSlash
  rw [String.ofList_toList] at found
  simpa only [Request.forRow, String.toList_append] using found

theorem route_for_row :
    Service.route (request.forRow shown spelled) engine =
      ((Service.onBackend (shown.answer hex.text) engine).1.bind fun response =>
          { response with requestId := request.id? }.sent.map .response,
        (Service.onBackend (shown.answer hex.text) engine).2) := by
  have asked : shown.answer (σ := σ) spelled = shown.answer hex.text :=
    funext (row_answer_spelled shown spells)
  rw [← asked]
  unfold Service.route
  rw [at_path_of_spelling shown spells]
  cases shown <;> rfl

/-- A row that is stored is shown under every spelling of its id. -/
theorem route_for_stored_row {row : shown.collection.Row} {state : σ}
    (stored : Backend.load shown.collection hex.text engine.state = (.ok (some row), state)) :
    Service.route (request.forRow shown spelled) engine =
      ({ Response.shared (shown.collection.encodeRow row) with
          requestId := request.id? }.sent.map .response,
        { engine with state }) := by
  have shows : shown.answer hex.text engine.state =
      (.ok (.shared (shown.collection.encodeRow row)), state) := by
    cases shown <;>
      simp only [Shown.answer, messageAnswer, accountAnswer, rowAnswer,
        HexString.normalize_text, Shown.collection] at stored ⊢ <;>
      rw [stored]
  rw [route_for_row shown spells, Service.onBackend, shows]
  rfl

theorem answer_for_row :
    Service.answer (request.forRow shown spelled) engine =
      Service.answer (request.forRow shown hex.text) engine := by
  rw [answer_by_authority, answer_by_authority, authority_for_row shown request spelled hex.text,
    route_for_row shown spells, route_for_row shown hex.normalize_text]

end Answers

end Http

end BridgeState
