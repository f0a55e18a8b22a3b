import BridgeState.Proofs.EncodedTexts
import BridgeState.Settings.Database

/-!
# Settings written as a locator and read back

Where host, database, user and mode are plain names, a locator gives them back, with the number
behind the host. The password is written with percent signs, but what stands for it in the locator is
taken as it is: the settings that are read have the encoded form of the password. So they are the
settings that were written exactly where no character of the password is encoded.
-/

namespace BridgeState

set_option autoImplicit false

open Text

namespace Url

/-! ## What a locator may hold -/

def isWordChar (c : Char) : Bool :=
  Percent.isPlain c.toNat && c != '.' && c != '~'

/-- A letter, a digit, a point or a hyphen; beyond ASCII, whatever does not stand for a delimiter. -/
def isHostChar (c : Char) : Bool :=
  (Percent.isPlain c.toNat && c != '_' && c != '~') ||
    (0x80 ≤ c.toNat && !delimiterForms.contains c.toNat)

/-- A character that may stand in an authority, wherever it stands. -/
def isInner (c : Char) : Bool :=
  !isIgnored c && !endsAuthority c && c != '[' && c != ']' && !delimiterForms.contains c.toNat

theorem inner_of_plain {c : Char} (plain : Percent.isPlain c.toNat = true) : isInner c = true := by
  have ascii := (Percent.code_of_plain plain).1
  exact of_ascii (p := fun c => Percent.isPlain c.toNat = true → isInner c = true) (by decide) ascii
    plain

theorem inner_of_wide {c : Char} (wide : 0x80 ≤ c.toNat)
    (noDelimiter : delimiterForms.contains c.toNat = false) : isInner c = true := by
  have apart (d : Char) (ascii : d.toNat < 0x80) : (c == d) = false := by
    rw [beq_eq_false_iff_ne]
    intro same
    subst same
    omega
  simp only [isInner, isIgnored, endsAuthority, noDelimiter, bne, apart '\t' (by decide),
    apart '\r' (by decide), apart '\n' (by decide), apart '/' (by decide), apart '?' (by decide),
    apart '#' (by decide), apart '[' (by decide), apart ']' (by decide)]
  rfl

theorem inner_of_word {c : Char} (word : isWordChar c = true) : isInner c = true := by
  simp only [isWordChar, Bool.and_eq_true] at word
  exact inner_of_plain word.1.1

theorem inner_of_host {c : Char} (host : isHostChar c = true) : isInner c = true := by
  simp only [isHostChar, Bool.or_eq_true, Bool.and_eq_true, decide_eq_true_eq,
    Bool.not_eq_true'] at host
  rcases host with ⟨⟨plain, -⟩, -⟩ | ⟨wide, noDelimiter⟩
  · exact inner_of_plain plain
  · exact inner_of_wide wide noDelimiter

theorem inner_of_digit {c : Char} (digit : c.isDigit = true) : isInner c = true := by
  have range : 0x30 ≤ c.toNat ∧ c.toNat ≤ 0x39 := Char.isDigit_iff_toNat.mp digit
  apply inner_of_plain
  simp only [Percent.isPlain, range, decide_true, Bool.and_self, Bool.true_or]

theorem inner_of_encoded {text : List Char} {c : Char} (inside : c ∈ Percent.encodeForm text) :
    isInner c = true := by
  rcases Percent.mem_encode_form inside with plain | rfl | rfl
  · exact inner_of_plain plain
  · decide
  · decide

/-! ## Parts of a locator -/

def databaseScheme : List Char := "postgresql".toList

def modeName : List Char := "sslmode".toList

def written (authority database mode : List Char) : List Char :=
  databaseScheme ++ ':' :: '/' :: '/' ::
    (authority ++ '/' :: (database ++ '?' :: (modeName ++ '=' :: mode)))

section Parts

variable {authority database mode : List Char}

theorem filter_inner {part : List Char} (inner : ∀ c ∈ part, isInner c = true) :
    (part.filter fun c => !isIgnored c) = part := by
  rw [List.filter_eq_self]
  intro c inside
  have isInside := inner c inside
  simp only [isInner, Bool.and_eq_true] at isInside
  exact isInside.1.1.1.1

theorem cleaned_written (inner : ∀ c ∈ authority, isInner c = true)
    (databaseWord : ∀ c ∈ database, isWordChar c = true)
    (modeWord : ∀ c ∈ mode, isWordChar c = true) :
    cleaned (written authority database mode) = written authority database mode := by
  have front : (written authority database mode).dropWhile isLeadIn =
      written authority database mode := List.dropWhile_cons_of_neg (by decide)
  have schemeCounts : databaseScheme.filter (fun c => !isIgnored c) = databaseScheme := by decide
  have modeCounts : modeName.filter (fun c => !isIgnored c) = modeName := by decide
  have marksCount : ∀ c ∈ [':', '/', '?', '='], (!isIgnored c) = true :=
    List.all_eq_true.mp (by decide)
  rw [cleaned, front, written]
  simp only [List.filter_append, List.filter_cons, marksCount ':' (by simp),
    marksCount '/' (by simp), marksCount '?' (by simp), marksCount '=' (by simp), if_true,
    schemeCounts, modeCounts, filter_inner inner,
    filter_inner fun c inside => inner_of_word (databaseWord c inside),
    filter_inner fun c inside => inner_of_word (modeWord c inside)]

theorem split_scheme_written :
    splitScheme (written authority database mode) = (databaseScheme,
      '/' :: '/' :: (authority ++ '/' :: (database ++ '?' :: (modeName ++ '=' :: mode)))) := by
  have isCut : cut ':' (written authority database mode) = (databaseScheme,
      some ('/' :: '/' :: (authority ++ '/' :: (database ++ '?' :: (modeName ++ '=' :: mode))))) :=
    cut_append ':' databaseScheme _ (by decide)
  rw [splitScheme, isCut]
  rfl

theorem split_authority_written (inner : ∀ c ∈ authority, isInner c = true) (path : List Char) :
    splitAuthority ('/' :: '/' :: (authority ++ '/' :: path)) = (authority, '/' :: path) := by
  have stays : ∀ c ∈ authority, (!endsAuthority c) = true := by
    intro c inside
    have isInside := inner c inside
    simp only [isInner, Bool.and_eq_true] at isInside
    exact isInside.1.1.1.2
  have ends : endsAuthority '/' = true := rfl
  rw [splitAuthority, List.takeWhile_append_of_pos stays, List.dropWhile_append_of_pos stays]
  simp only [List.takeWhile_cons, List.dropWhile_cons, ends, Bool.not_true, Bool.false_eq_true,
    if_false, List.append_nil]

theorem parse_written (inner : ∀ c ∈ authority, isInner c = true)
    (databaseWord : ∀ c ∈ database, isWordChar c = true)
    (modeWord : ∀ c ∈ mode, isWordChar c = true) :
    parse (written authority database mode) =
      .ok ⟨databaseScheme, authority, '/' :: database, modeName ++ '=' :: mode⟩ := by
  have noBrackets : checkBrackets authority = .ok () := by
    have noOpen : authority.contains '[' = false := by
      simpa using not_mem_of_all inner (c := '[') (by decide)
    have noClose : authority.contains ']' = false := by
      simpa using not_mem_of_all inner (c := ']') (by decide)
    rw [checkBrackets, noOpen, noClose]
  have noDelimiter : (authority.any fun c => delimiterForms.contains c.toNat) = false := by
    rw [List.any_eq_false]
    intro c inside
    have isInside := inner c inside
    simp only [isInner, Bool.and_eq_true, Bool.not_eq_true'] at isInside
    rw [isInside.2]
    exact Bool.false_ne_true
  have noFragment : cut '#' ('/' :: (database ++ '?' :: (modeName ++ '=' :: mode))) =
      ('/' :: (database ++ '?' :: (modeName ++ '=' :: mode)), none) := by
    apply cut_none
    have inDatabase : '#' ∉ database := not_mem_of_all databaseWord (by decide)
    have inMode : '#' ∉ mode := not_mem_of_all modeWord (by decide)
    have inName : '#' ∉ modeName := by decide
    simp [inDatabase, inMode, inName]
  have splitQuery : cut '?' ('/' :: (database ++ '?' :: (modeName ++ '=' :: mode))) =
      ('/' :: database, some (modeName ++ '=' :: mode)) := by
    apply cut_append '?' ('/' :: database)
    have inDatabase : '?' ∉ database := not_mem_of_all databaseWord (by decide)
    simp [inDatabase]
  have noParameters : parameterSchemes.contains (String.ofList databaseScheme) = false := by decide
  simp only [parse, cleaned_written inner databaseWord modeWord, split_scheme_written,
    split_authority_written inner, noBrackets, noFragment, splitQuery, noDelimiter, noParameters]
  rfl

end Parts

/-! ## What is read of an authority -/

section Authority

variable {url : Url} {info host number : List Char}
  (authority : url.authority = info ++ '@' :: (host ++ ':' :: number))

include authority

theorem info_behind_at (hostInner : '@' ∉ host) (numberInner : '@' ∉ number) :
    cutLast '@' url.authority = (some info, host ++ ':' :: number) := by
  rw [authority]
  apply cut_last_append
  simp [hostInner, numberInner]

variable (hostChars : ∀ c ∈ host, isHostChar c = true)
  (digits : ∀ c ∈ number, c.isDigit = true)

include hostChars digits

theorem user_info_read : url.userInfo = some (cut ':' info) := by
  have behind := info_behind_at authority (not_mem_of_all hostChars (by decide))
    (not_mem_of_all digits (by decide))
  rw [userInfo, behind]
  rfl

theorem host_info_read : url.hostInfo = (host, number) := by
  have behind := info_behind_at authority (not_mem_of_all hostChars (by decide))
    (not_mem_of_all digits (by decide))
  have noBracket : cut '[' (host ++ ':' :: number) = (host ++ ':' :: number, none) := by
    apply cut_none
    have inHost : '[' ∉ host := not_mem_of_all hostChars (by decide)
    have inNumber : '[' ∉ number := not_mem_of_all digits (by decide)
    simp [inHost, inNumber]
  have isCut := cut_append ':' host number (not_mem_of_all hostChars (by decide))
  simp only [hostInfo, behind, noBracket, isCut, Option.getD_some]

theorem host_name_read (small : lower host = host) : url.hostName = host := by
  have noZone := cut_none '%' host (not_mem_of_all hostChars (by decide))
  simp only [hostName, host_info_read authority hostChars digits, noZone, small]

end Authority

theorem port_number_read {url : Url} {info host : List Char} {port : Nat}
    (authority : url.authority = info ++ '@' :: (host ++ ':' :: Nat.toDigits 10 port))
    (hostChars : ∀ c ∈ host, isHostChar c = true) (bound : port ≤ 65535) :
    url.portNumber? = .ok (some port) := by
  have digits := Numbers.all_digits port
  have filled : (Nat.toDigits 10 port).isEmpty = false :=
    List.isEmpty_eq_false_iff.mpr Nat.toDigits_ne_nil
  have short : (Nat.toDigits 10 port).length ≤ 5 :=
    (Nat.length_toDigits_le_iff (by decide) (by decide)).mpr (by omega)
  have allDigits : ((Nat.toDigits 10 port).all fun c => (asciiDigit? c).isSome) = true := by
    rw [List.all_eq_true]
    intro c inside
    rw [Numbers.ascii_digit (digits c inside)]
    rfl
  have notLong : ¬(Nat.toDigits 10 port).length > digitLimit := by
    unfold digitLimit
    omega
  have number : decimalNumber ((Nat.toDigits 10 port).filterMap asciiDigit?) = port := by
    rw [Numbers.decimal_number_digits digits, Nat.ofDigitChars_toDigits (by decide) (by decide)]
  simp only [portNumber?, host_info_read authority hostChars digits, filled, allDigits, notLong,
    number, bound]
  rfl

theorem path_read {database : List Char} (word : ∀ c ∈ database, isWordChar c = true) :
    ('/' :: database).dropWhile (· == '/') = database := by
  have noSlash : '/' ∉ database := not_mem_of_all word (by decide)
  rw [List.dropWhile_cons_of_pos rfl]
  cases database with
  | nil => rfl
  | cons first rest =>
      rw [List.mem_cons, not_or] at noSlash
      exact List.dropWhile_cons_of_neg (by simpa using Ne.symm noSlash.1)

theorem mode_read {mode : List Char} (filled : mode ≠ [])
    (word : ∀ c ∈ mode, isWordChar c = true) :
    Query.first? "sslmode".toList (modeName ++ '=' :: mode) = some mode := by
  have single : pieces '&' (modeName ++ '=' :: mode) = [modeName ++ '=' :: mode] := by
    apply pieces_none
    have inMode : '&' ∉ mode := not_mem_of_all word (by decide)
    have inName : '&' ∉ modeName := by decide
    simp [inMode, inName]
  have isCut : cut '=' (modeName ++ '=' :: mode) = (modeName, some mode) :=
    cut_append '=' modeName mode (by decide)
  have nameDecoded : Percent.decodeForm modeName = modeName :=
    Percent.decode_form_unmarked modeName (by decide) (by decide)
  have modeDecoded : Percent.decodeForm mode = mode :=
    Percent.decode_form_unmarked mode (not_mem_of_all word (by decide))
      (not_mem_of_all word (by decide))
  obtain ⟨first, rest, rfl⟩ := List.exists_cons_of_ne_nil filled
  have pair : Query.pair? (modeName ++ '=' :: first :: rest) = some (modeName, first :: rest) := by
    simp only [Query.pair?, isCut, nameDecoded, modeDecoded]
  have same : (modeName == "sslmode".toList) = true := by decide
  simp only [Query.first?, Query.pairs, single, List.filterMap_cons_some pair, List.filterMap_nil,
    List.find?_cons, same, Option.map_some]

end Url

/-! ## Settings -/

namespace DatabaseSettings

/-- Settings whose parts, apart from the password, may stand in a locator as they are. -/
structure Addressable (settings : DatabaseSettings) : Prop where
  hostFilled : settings.host ≠ ""
  hostSmall : lowerString settings.host = settings.host
  hostChars : ∀ c ∈ settings.host.toList, Url.isHostChar c = true
  numberPositive : 1 ≤ settings.portNumber
  numberBound : settings.portNumber ≤ 65535
  databaseFilled : settings.database ≠ ""
  databaseWord : ∀ c ∈ settings.database.toList, Url.isWordChar c = true
  userFilled : settings.user ≠ ""
  userWord : ∀ c ∈ settings.user.toList, Url.isWordChar c = true
  modeFilled : settings.sslMode ≠ ""
  modeWord : ∀ c ∈ settings.sslMode.toList, Url.isWordChar c = true

def encodedPassword (settings : DatabaseSettings) : String :=
  String.ofList (Percent.encodeForm settings.password.toList)

def info (settings : DatabaseSettings) : List Char :=
  if settings.password.isEmpty then settings.user.toList
  else settings.user.toList ++ ':' :: Percent.encodeForm settings.password.toList

def authority (settings : DatabaseSettings) : List Char :=
  settings.info ++ '@' :: (settings.host.toList ++ ':' :: Nat.toDigits 10 settings.portNumber.toNat)

def locator (settings : DatabaseSettings) : Url where
  scheme := Url.databaseScheme
  authority := settings.authority
  path := '/' :: settings.database.toList
  query := Url.modeName ++ '=' :: settings.sslMode.toList

theorem info_of_credentials (settings : DatabaseSettings) :
    (settings.credentials true).toList = settings.info ++ ['@'] := by
  unfold credentials info
  cases settings.password.isEmpty with
  | true => simp
  | false => simp

theorem number_digits {number : Int} (positive : 1 ≤ number) :
    (toString number).toList = Nat.toDigits 10 number.toNat := by
  obtain ⟨natural, rfl⟩ := Int.eq_ofNat_of_zero_le (by omega : 0 ≤ number)
  exact Numbers.digits_of_natural natural

theorem locator_text {settings : DatabaseSettings} (positive : 1 ≤ settings.portNumber) :
    (settings.url true).toList =
      Url.written settings.authority settings.database.toList settings.sslMode.toList := by
  have parts : settings.url true = "postgresql://" ++ settings.credentials true ++ settings.host ++
      ":" ++ toString settings.portNumber ++ "/" ++ settings.database ++ "?sslmode=" ++
        settings.sslMode := rfl
  have front : "postgresql://".toList = Url.databaseScheme ++ [':', '/', '/'] := by decide
  have query : "?sslmode=".toList = '?' :: Url.modeName ++ ['='] := by decide
  have colon : ":".toList = [':'] := by decide
  have slash : "/".toList = ['/'] := by decide
  simp only [parts, String.toList_append, front, query, colon, slash, info_of_credentials,
    number_digits positive, Url.written, authority, List.append_assoc, List.cons_append,
    List.nil_append]

theorem or_else_filled {text absent : String} (filled : text ≠ "") :
    orElse (some text.toList) absent = text := by
  obtain ⟨first, rest, isText⟩ := List.exists_cons_of_ne_nil fun empty =>
    filled (String.toList_eq_nil_iff.mp empty)
  rw [isText, orElse, ← isText, String.ofList_toList]

theorem cut_info {settings : DatabaseSettings}
    (userWord : ∀ c ∈ settings.user.toList, Url.isWordChar c = true) :
    cut ':' settings.info = (settings.user.toList,
      if settings.password.isEmpty then none else some settings.encodedPassword.toList) := by
  have noColon : ':' ∉ settings.user.toList := not_mem_of_all userWord (by decide)
  unfold info encodedPassword
  cases settings.password.isEmpty with
  | true => exact cut_none ':' _ noColon
  | false =>
      rw [String.toList_ofList]
      exact cut_append ':' _ _ noColon

theorem encoded_empty_iff (settings : DatabaseSettings) :
    settings.encodedPassword = "" ↔ settings.password = "" := by
  constructor
  · intro empty
    have decoded := Percent.decode_encode_form settings.password.toList
    have noForm : Percent.encodeForm settings.password.toList = [] := by
      simpa [encodedPassword] using empty
    rw [noForm] at decoded
    exact String.toList_eq_nil_iff.mp decoded.symm
  · intro empty
    rw [encodedPassword, empty]
    rfl

/-- The password is absent from a locator where it is empty; it is read as empty then. -/
theorem password_read (settings : DatabaseSettings) :
    orElse (if settings.password.isEmpty then none else some settings.encodedPassword.toList)
      standard.password = settings.encodedPassword := by
  by_cases empty : settings.password = ""
  · rw [(encoded_empty_iff settings).mpr empty, empty]
    rfl
  · rw [if_neg (by simpa using empty), or_else_filled]
    exact mt (encoded_empty_iff settings).mp empty

theorem of_url_parts {environment : Environment} {text : String} {url : Url}
    {number : Nat} (isParsed : Url.parse text.toList = .ok url)
    (isNumber : url.portNumber? = .ok (some (number + 1))) :
    ofUrl environment text = (timeoutOf environment).map fun statementTimeout => {
      host := orElse (some url.hostName) standard.host
      portNumber := (number + 1 : Nat)
      database := orElse (some (url.path.dropWhile (· == '/'))) standard.database
      user := orElse url.user? standard.user
      password := orElse url.password? standard.password
      statementTimeout
      sslMode := match Url.Query.first? "sslmode".toList url.query with
        | some mode => String.ofList mode
        | none => standard.sslMode } := by
  have port : url.portNumber?.mapError SettingsFault.url = .ok (some (number + 1)) :=
    congrArg (Except.mapError SettingsFault.url) isNumber
  rw [ofUrl, isParsed]
  change (url.portNumber?.mapError SettingsFault.url >>= _) = _
  rw [port]
  cases timeoutOf environment with
  | error fault => rfl
  | ok timeout => rfl

namespace Addressable

variable {settings : DatabaseSettings} (addressable : settings.Addressable)

include addressable

theorem info_inner : ∀ c ∈ settings.info, Url.isInner c = true := by
  unfold info
  intro c inside
  split at inside
  · exact Url.inner_of_word (addressable.userWord c inside)
  · rw [List.mem_append, List.mem_cons] at inside
    rcases inside with user | rfl | encoded
    · exact Url.inner_of_word (addressable.userWord c user)
    · decide
    · exact Url.inner_of_encoded encoded

theorem authority_inner : ∀ c ∈ settings.authority, Url.isInner c = true := by
  intro c inside
  rw [authority, List.mem_append, List.mem_cons, List.mem_append, List.mem_cons] at inside
  rcases inside with information | rfl | host | rfl | digit
  · exact addressable.info_inner c information
  · decide
  · exact Url.inner_of_host (addressable.hostChars c host)
  · decide
  · exact Url.inner_of_digit (Numbers.all_digits _ c digit)

theorem small_host : lower settings.host.toList = settings.host.toList := by
  have small := congrArg String.toList addressable.hostSmall
  rwa [lowerString, String.toList_ofList] at small

theorem url_parsed : Url.parse (settings.url true).toList = .ok settings.locator := by
  rw [locator_text addressable.numberPositive]
  exact Url.parse_written addressable.authority_inner addressable.databaseWord
    addressable.modeWord

theorem locator_port {number : Nat} (isNumber : settings.portNumber = (number + 1 : Nat)) :
    settings.locator.portNumber? = .ok (some (number + 1)) := by
  have bound : settings.portNumber.toNat ≤ 65535 := by
    have below := addressable.numberBound
    omega
  rw [Url.port_number_read rfl addressable.hostChars bound, isNumber]
  rfl

theorem locator_info : settings.locator.userInfo = some (settings.user.toList,
    if settings.password.isEmpty then none else some settings.encodedPassword.toList) := by
  rw [Url.user_info_read rfl addressable.hostChars (Numbers.all_digits _),
    cut_info addressable.userWord]

theorem locator_host : settings.locator.hostName = settings.host.toList :=
  Url.host_name_read rfl addressable.hostChars (Numbers.all_digits _) addressable.small_host

theorem locator_mode :
    Url.Query.first? "sslmode".toList settings.locator.query = some settings.sslMode.toList :=
  Url.mode_read (mt String.toList_eq_nil_iff.mp addressable.modeFilled) addressable.modeWord

/-- What is read of the locator of such settings. -/
theorem url_read (environment : Environment) :
    ofUrl environment (settings.url true) = (timeoutOf environment).map fun timeout =>
      { settings with password := settings.encodedPassword, statementTimeout := timeout } := by
  have positive := addressable.numberPositive
  obtain ⟨number, isNumber⟩ : ∃ number : Nat, settings.portNumber = (number + 1 : Nat) :=
    ⟨settings.portNumber.toNat - 1, by omega⟩
  have user : settings.locator.user? = some settings.user.toList := by
    rw [Url.user?, addressable.locator_info, Option.map_some]
  have password : settings.locator.password? =
      if settings.password.isEmpty then none else some settings.encodedPassword.toList := by
    rw [Url.password?, addressable.locator_info, Option.bind_some]
  have database : settings.locator.path.dropWhile (· == '/') = settings.database.toList :=
    Url.path_read addressable.databaseWord
  rw [of_url_parts addressable.url_parsed (addressable.locator_port isNumber), user, password,
    addressable.locator_host, database, addressable.locator_mode, password_read,
    or_else_filled addressable.hostFilled, or_else_filled addressable.databaseFilled,
    or_else_filled addressable.userFilled, ← isNumber]
  simp only [String.ofList_toList]

end Addressable

/-- Everything that a locator was written for is read of it again, but for the password: its encoded
form is read. So the password is another one wherever it holds a character that is encoded, although
decoding what is read would give it back. -/
theorem locator_keeps_all_but_encoding (environment : Environment) (settings : DatabaseSettings)
    (addressable : settings.Addressable) :
    ofUrl environment (settings.url true) = (timeoutOf environment).map (fun timeout =>
        { settings with password := settings.encodedPassword, statementTimeout := timeout }) ∧
      (settings.encodedPassword = settings.password ↔
        ∀ c ∈ settings.password.toList, Percent.isPlain c.toNat = true) ∧
      String.ofList (Percent.decodeForm settings.encodedPassword.toList) = settings.password := by
  refine ⟨addressable.url_read environment, ?_, ?_⟩
  · rw [← Percent.encode_form_eq_iff, encodedPassword, ← String.toList_inj, String.toList_ofList]
  · rw [encodedPassword, String.toList_ofList, Percent.decode_encode_form, String.ofList_toList]

def spaced : DatabaseSettings :=
  { standard with password := "a b" }

theorem spaced_addressable : spaced.Addressable where
  hostFilled := by decide
  hostSmall := by decide
  hostChars := List.all_eq_true.mp (by decide)
  numberPositive := by decide
  numberBound := by decide
  databaseFilled := by decide
  databaseWord := List.all_eq_true.mp (by decide)
  userFilled := by decide
  userWord := List.all_eq_true.mp (by decide)
  modeFilled := by decide
  modeWord := List.all_eq_true.mp (by decide)

theorem locator_keeps_all_but_encoding_spaced :
    spaced.Addressable ∧ ofUrl [] (spaced.url true) = (timeoutOf []).map (fun timeout =>
      { spaced with password := spaced.encodedPassword, statementTimeout := timeout }) :=
  ⟨spaced_addressable, (locator_keeps_all_but_encoding [] spaced spaced_addressable).1⟩

theorem spaced_password_lost :
    spaced.Addressable ∧
      ofUrl [] (spaced.url true) = .ok { spaced with password := "a+b" } ∧
      spaced.password ≠ "a+b" := by
  refine ⟨spaced_addressable, ?_, by decide⟩
  have timeout : timeoutOf [] = .ok 10000 := rfl
  have encoded : spaced.encodedPassword = "a+b" := by decide
  rw [spaced_addressable.url_read [], timeout, encoded]
  rfl

end DatabaseSettings

end BridgeState
