import ValidityTables.Proofs.FirstEntry
import ValidityTables.Proofs.HeaderFields

/-! # Addresses are read back

An address is a protocol, a host with or without a port, and a database. As long as its separators
do not occur in the parts before them, an account has exactly the parts that the address was made
from: the host begins after the first two slashes and has none itself, and the port is what comes
after its last colon. Nothing but a port that is too large can make such an address fail.
-/

namespace ValidityTables

open Text

namespace Access

section Reader

theorem readLine?_cons {c : Char} {rest : List Char}
    (h : ∀ more, c = '/' → rest = '/' :: more → False) :
    readLine? (c :: rest) = readLine? rest := by
  rw [readLine?]
  exact h

theorem readLine?_unslashed {cs : List Char} (h : ¬['/', '/'] <:+: cs) : readLine? cs = none := by
  fun_induction readLine? cs with
  | case1 rest => exact absurd (List.prefix_append ['/', '/'] rest).isInfix h
  | case2 c rest _ ih => exact ih fun hRest => h (hRest.trans (List.suffix_cons c rest).isInfix)
  | case3 => rfl

/-- The host begins after the first two slashes. -/
theorem readLine?_protocol {protocol : List Char} (h : ¬['/', '/'] <:+: protocol)
    (rest : List Char) :
    readLine? (protocol ++ ':' :: '/' :: '/' :: rest) = readHost? [] rest := by
  induction protocol with
  | nil =>
    rw [List.nil_append, readLine?_cons (by simp)]
    rfl
  | cons c protocol ih =>
    rw [List.cons_append, readLine?_cons]
    · exact ih fun hRest => h (hRest.trans (List.suffix_cons c protocol).isInfix)
    · rintro more rfl hMore
      cases protocol with
      | nil => cases hMore
      | cons d protocol =>
        cases hMore
        exact h (List.prefix_append ['/', '/'] protocol).isInfix

theorem readHost?_name {name database : List Char} (hName : '/' ∉ name) (hSome : database ≠ [])
    (hWord : ∀ c ∈ database, isWord c = true) (passed : List Char) :
    readHost? passed (name ++ '/' :: database) = some (passed.reverse ++ name, database) := by
  induction name generalizing passed with
  | nil =>
    have hAll : database.takeWhile isWord = database := List.takeWhile_eq_self_iff.mpr hWord
    rw [List.nil_append, readHost?, hAll, if_pos ⟨rfl, hSome⟩, List.append_nil]
  | cons c name ih =>
    rw [List.mem_cons, not_or] at hName
    rw [List.cons_append, readHost?, if_neg (fun hBoth => hName.1 hBoth.1.symm), ih hName.2,
      List.reverse_cons, List.append_assoc]
    rfl

/-- Digits after a colon at the end of a text, which are taken for a port. -/
def EndsInPort (cs : List Char) : Prop :=
  ∃ name digits, cs = name ++ ':' :: digits ∧ digits ≠ [] ∧ ∀ c ∈ digits, isDigit c = true

theorem splitPort?_eq_some {cs name digits : List Char} : splitPort? cs = some (name, digits) ↔
    cs = name ++ ':' :: digits ∧ digits ≠ [] ∧ ∀ c ∈ digits, isDigit c = true := by
  have hParts := cs.reverse.takeWhile_append_dropWhile (p := isDigit)
  constructor
  · intro h
    simp only [splitPort?] at h
    split at h
    · rename_i before hBefore
      obtain ⟨hSome, hSame⟩ := Option.ite_none_left_eq_some.mp h
      cases hSame
      rw [hBefore] at hParts
      have hWhole : cs = (cs.reverse.takeWhile isDigit ++ ':' :: before).reverse := by
        rw [hParts, List.reverse_reverse]
      exact ⟨hWhole.trans (by simp), hSome,
        fun c hMem => List.mem_takeWhile_imp (List.mem_reverse.mp hMem)⟩
    · cases h
  · rintro ⟨rfl, hSome, hDigits⟩
    have hReverse : (name ++ ':' :: digits).reverse = digits.reverse ++ ':' :: name.reverse := by
      simp
    have hRun : ∀ c ∈ digits.reverse, isDigit c = true := fun c hMem =>
      hDigits c (List.mem_reverse.mp hMem)
    have hColon : ∀ c, (':' :: name.reverse).head? = some c → isDigit c = false := by
      rintro c ⟨⟩
      decide +kernel
    obtain ⟨hTaken, hDropped⟩ := takeWhile_append_stop hRun hColon
    simp only [splitPort?, hReverse, hTaken, hDropped, List.reverse_reverse, if_neg hSome]

theorem readPort_none {host : List Char} (h : ¬EndsInPort host) :
    readPort host = .ok (host, none) := by
  cases hSplit : splitPort? host with
  | none => rw [readPort, hSplit]
  | some parts => exact absurd ⟨parts.1, parts.2, splitPort?_eq_some.mp hSplit⟩ h

theorem splitPort?_numeral {digits : List Char} {n : Nat} (h : IsNumeral digits n)
    (host : List Char) : splitPort? (host ++ ':' :: digits) = some (host, digits) :=
  splitPort?_eq_some.mpr ⟨rfl, h.nonempty, Header.isDigit_of_numeral h⟩

theorem readPort_some {digits : List Char} {n : Nat} (h : IsNumeral digits n) (hMax : n ≤ 65535)
    (host : List Char) : readPort (host ++ ':' :: digits) = .ok (host, some (UInt16.ofNat n)) := by
  have hRead : readNat (UInt16.size - 1) digits = .ok n := readNat_numeral h hMax
  simp only [readPort, splitPort?_numeral h, hRead]

def portTooLarge : UpdateError :=
  .invalidConfig "bad port in ENV_TSQL_URL: number too large to fit in target type"

theorem readPort_large {digits : List Char} {n : Nat} (h : IsNumeral digits n) (hLarge : 65535 < n)
    (host : List Char) : readPort (host ++ ':' :: digits) = .error portTooLarge := by
  have hRead : readNat (UInt16.size - 1) digits = .error .tooLarge := readNat_large h hLarge
  simp only [readPort, splitPort?_numeral h, hRead]
  rfl

end Reader

/-- A port as it is written, with leading zeros or without. -/
structure Port where
  digits : String
  number : Nat
  numeral : IsNumeral digits.toList number

/-- The parts of an address, in which the separators behind them do not occur. -/
structure Address where
  protocol : String
  host : String
  port : Option Port
  database : String
  single : ¬['/', '/'] <:+: protocol.toList
  plain : ∀ c ∈ host.toList, c ≠ '/' ∧ c ≠ '\n'
  portless : port = none → ¬EndsInPort host.toList
  named : database ≠ "" ∧ IsName database

namespace Address

variable (address : Address)

/-- The host with its port. -/
def place : String :=
  match address.port with
  | some port => address.host ++ ":" ++ port.digits
  | none => address.host

def text : String :=
  address.protocol ++ "://" ++ address.place ++ "/" ++ address.database

/-- The account of a user with a password. -/
def account (user password : String) : Access where
  database := address.database
  host := address.host
  port := address.port.map fun port => UInt16.ofNat port.number
  user
  password := some password

theorem place_plain : ∀ c ∈ address.place.toList, c ≠ '/' ∧ c ≠ '\n' := by
  intro c hMem
  unfold place at hMem
  split at hMem
  · rename_i port _
    rw [String.toList_append, String.toList_append, List.mem_append, List.mem_append] at hMem
    obtain (hHost | hColon) | hDigit := hMem
    · exact address.plain c hHost
    · obtain rfl : c = ':' := by simpa using hColon
      decide
    · have hAscii := port.numeral.digits c hDigit
      constructor <;> rintro rfl <;> cases hAscii
  · exact address.plain c hMem

theorem text_toList : address.text.toList = address.protocol.toList ++
    ':' :: '/' :: '/' :: (address.place.toList ++ '/' :: address.database.toList) := by
  simp [text]

/-- A protocol may have line feeds, but the other parts are on one line. -/
theorem newline_not_mem : '\n' ∉ ':' :: '/' :: '/' ::
    (address.place.toList ++ '/' :: address.database.toList) := by
  have hWord : isWord '\n' = false := by decide +kernel
  have hPlace : '\n' ∉ address.place.toList := fun hMem => (address.place_plain _ hMem).2 rfl
  have hDatabase : '\n' ∉ address.database.toList := fun hMem => by
    have hName := address.named.2 _ hMem
    rw [hWord] at hName
    cases hName
  simp [hPlace, hDatabase]

theorem readAddress?_text :
    readAddress? address.text.toList = some (address.place.toList, address.database.toList) := by
  obtain ⟨init, last, first, more, hFront, hBack, hBoth⟩ := splitOn_append '\n'
    address.protocol.toList (':' :: '/' :: '/' ::
      (address.place.toList ++ '/' :: address.database.toList))
  rw [List.splitOn_eq_singleton address.newline_not_mem] at hBack
  cases hBack
  -- All lines of the protocol are passed over, and the host is on the last one of them.
  have hSingle : ∀ line ∈ init ++ [last], ¬['/', '/'] <:+: line := by
    intro line hMem hSlashes
    rw [← hFront] at hMem
    exact address.single (hSlashes.trans (isInfix_of_mem_splitOn hMem))
  have hInit : init.findSome? readLine? = none := List.findSome?_eq_none_iff.mpr fun line hMem =>
    readLine?_unslashed (hSingle line (List.mem_append_left _ hMem))
  have hDatabase : address.database.toList ≠ [] := by
    rw [ne_eq, String.toList_eq_nil_iff]
    exact address.named.1
  rw [readAddress?, text_toList, hBoth, List.findSome?_append, hInit, Option.none_or,
    List.findSome?_cons, readLine?_protocol (hSingle last (by simp)),
    readHost?_name (fun hMem => (address.place_plain _ hMem).1 rfl) hDatabase address.named.2]
  rfl

theorem readPort_place (h : ∀ port, address.port = some port → port.number ≤ 65535) :
    readPort address.place.toList = .ok (address.host.toList,
      address.port.map fun port => UInt16.ofNat port.number) := by
  unfold place
  cases hPort : address.port with
  | none => exact readPort_none (address.portless hPort)
  | some port =>
    simp only [String.toList_append, List.append_assoc]
    exact readPort_some port.numeral (h port hPort) _

theorem readPort_place_large {port : Port} (hPort : address.port = some port)
    (h : 65535 < port.number) : readPort address.place.toList = .error portTooLarge := by
  simp only [place, hPort, String.toList_append, List.append_assoc]
  exact readPort_large port.numeral h _

theorem clientArgs_account (h : ∀ port, address.port = some port → port.number ≤ 65535)
    (user password : String) : (address.account user password).clientArgs =
      [address.database, "--compress", "--host", address.host] ++
        (address.port.map fun port => "--port=" ++ toString port.number).toList ++
        ["--user=" ++ user, "--password=" ++ password] := by
  cases hPort : address.port with
  | none => simp [clientArgs, account, hPort]
  | some port =>
    have hNumber : toString (UInt16.ofNat port.number) = toString port.number := by
      have hSize : port.number < UInt16.size := Nat.lt_succ_of_le (h port hPort)
      exact congrArg toString (UInt16.toNat_ofNat_of_lt hSize)
    simp [clientArgs, account, hPort, hNumber]

end Address

theorem firstEntry_undivided {entry : String} (h : ';' ∉ entry.toList) :
    firstEntry entry = entry := by
  have hAll : entry.toList.takeWhile (· != ';') = entry.toList :=
    List.takeWhile_eq_self_iff.mpr fun c hMem => bne_iff_ne.mpr fun hSame => h (hSame ▸ hMem)
  rw [firstEntry, hAll, String.ofList_toList]

/-- An account has the parts of its address, whatever entries follow it, and passes them to the
client. It fails if and only if the port is out of range. -/
theorem ofParts_address (address : Address) {url user password : String}
    (hUrl : url = address.text ∨ ∃ later, url = address.text ++ ";" ++ later)
    (hUser : ';' ∉ user.toList) (hPassword : ';' ∉ password.toList) (hSome : password ≠ "\\0") :
    ((∀ port, address.port = some port → port.number ≤ 65535) →
      ofParts url user password = .ok (address.account user password) ∧
      (address.account user password).clientArgs =
        [address.database, "--compress", "--host", address.host] ++
          (address.port.map fun port => "--port=" ++ toString port.number).toList ++
          ["--user=" ++ user, "--password=" ++ password]) ∧
    ∀ port, address.port = some port → 65535 < port.number →
      ofParts url user password = .error portTooLarge := by
  have hRead : readAddress? url.toList =
      some (address.place.toList, address.database.toList) := by
    obtain rfl | ⟨later, rfl⟩ := hUrl
    · exact address.readAddress?_text
    · rw [String.append_assoc, String.toList_append, String.toList_append]
      exact readAddress?_append address.readAddress?_text
  constructor
  · intro hRange
    refine ⟨?_, address.clientArgs_account hRange user password⟩
    simp only [ofParts, hRead, address.readPort_place hRange, String.ofList_toList,
      firstEntry_undivided hUser, firstEntry_undivided hPassword, if_neg hSome]
    rfl
  · intro port hPort hLarge
    simp only [ofParts, hRead, address.readPort_place_large hPort hLarge]

/-- A host with a colon, and a port with a zero in front of it. -/
def colonAddress : Address where
  protocol := "my/sql"
  host := "db:1 x"
  port := some ⟨"03307", 3307, ⟨by decide, List.all_eq_true.mp (by decide), by decide⟩⟩
  database := "calib"
  single := by decide
  plain := by simp
  portless := by simp
  named := ⟨by decide, List.all_eq_true.mp (by decide +kernel)⟩

theorem ofParts_address_colon :
    "my/sql://db:1 x:03307/calib;mysql://other/db2" =
        colonAddress.text ++ ";" ++ "mysql://other/db2" ∧
      (∀ port, colonAddress.port = some port → port.number ≤ 65535) ∧
      ofParts "my/sql://db:1 x:03307/calib;mysql://other/db2" "me" "p w" =
        .ok ⟨"calib", "db:1 x", some 3307, "me", some "p w"⟩ ∧
      (colonAddress.account "me" "p w").clientArgs =
        ["calib", "--compress", "--host", "db:1 x", "--port=3307", "--user=me",
          "--password=p w"] := by
  have hUrl : "my/sql://db:1 x:03307/calib;mysql://other/db2" =
      colonAddress.text ++ ";" ++ "mysql://other/db2" := by decide
  have hRange : ∀ port, colonAddress.port = some port → port.number ≤ 65535 := by
    rintro port ⟨⟩
    decide
  exact ⟨hUrl, hRange, (ofParts_address colonAddress (.inr ⟨_, hUrl⟩) (by decide) (by decide)
    (by decide)).1 hRange⟩

end Access

end ValidityTables
