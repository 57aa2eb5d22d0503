import RosarioDairy.Foundations.Patterns
import RosarioDairy.Foundations.Trimming
import RosarioDairy.Text

/-!
# CustomerNames — the canonical name of a customer label

Labels of the sales workbooks are cleaned of annotations, sent through two tables of aliases and cut at
event dates.  Labels are lists of characters; what the case mappings of Unicode do outside ASCII, and
which characters are word characters, is left open.
-/

namespace RosarioDairy
namespace CustomerNames

open Foundations

/-! ## Characters -/

def isAscii (c : Char) : Bool := decide (c.toNat < 128)

/-- `str.lower`, `str.casefold`, and the characters that `\b` takes for part of a word. -/
structure Unicode where
  lower : List Char → List Char
  casefold : List Char → List Char
  isWord : Char → Bool
  lower_ascii : ∀ s, s.all isAscii = true → lower s = s.map Char.toLower
  casefold_ascii : ∀ s, s.all isAscii = true → casefold s = s.map Char.toLower

/-- The mappings on ASCII. -/
def Unicode.ascii : Unicode :=
  { lower := fun s => s.map Char.toLower
    casefold := fun s => s.map Char.toLower
    isWord := fun c => c.isAlphanum || c == '_'
    lower_ascii := fun _ _ => rfl
    casefold_ascii := fun _ _ => rfl }

/-- The first of every ten decimal digits. -/
def decimalZeros : List Nat :=
  [0x30, 0x660, 0x6f0, 0x7c0, 0x966, 0x9e6, 0xa66, 0xae6, 0xb66, 0xbe6, 0xc66, 0xce6, 0xd66,
   0xde6, 0xe50, 0xed0, 0xf20, 0x1040, 0x1090, 0x17e0, 0x1810, 0x1946, 0x19d0, 0x1a80, 0x1a90,
   0x1b50, 0x1bb0, 0x1c40, 0x1c50, 0xa620, 0xa8d0, 0xa900, 0xa9d0, 0xa9f0, 0xaa50, 0xabf0,
   0xff10, 0x104a0, 0x10d30, 0x10d40, 0x11066, 0x110f0, 0x11136, 0x111d0, 0x112f0, 0x11450,
   0x114d0, 0x11650, 0x116c0, 0x116d0, 0x116da, 0x11730, 0x118e0, 0x11950, 0x11bf0, 0x11c50,
   0x11d50, 0x11da0, 0x11f50, 0x16130, 0x16a60, 0x16ac0, 0x16b50, 0x16d70, 0x1ccf0, 0x1d7ce,
   0x1d7d8, 0x1d7e2, 0x1d7ec, 0x1d7f6, 0x1e140, 0x1e2f0, 0x1e4f0, 0x1e5f1, 0x1e950, 0x1fbf0]

/-- The characters `\d` matches. -/
def isDecimal (c : Char) : Bool :=
  decimalZeros.any fun first => decide (first ≤ c.toNat) && decide (c.toNat < first + 10)

/-! ## Patterns -/

/-- A character of a pattern, in any case: four letters outside ASCII match one of it. -/
def letter (c : Char) : Pattern :=
  .char fun d => d == c.toLower || d == c.toUpper || (c.toLower == 's' && d.toNat == 0x17f) ||
    (c.toLower == 'i' && (d.toNat == 0x130 || d.toNat == 0x131)) ||
    (c.toLower == 'k' && d.toNat == 0x212a)

def word (text : String) : Pattern := .all (text.toList.map letter)

def mark (c : Char) : Pattern := .char fun d => d == c

/-- `\s*` -/
def spaces : Pattern := .many (.char isSpace)

/-- `\s+` -/
def spaces1 : Pattern := .plus (.char isSpace)

/-- `\d+` -/
def digits : Pattern := .plus (.char isDecimal)

/-- `\d{1,2}` -/
def dayOfMonth : Pattern := .seq (.char isDecimal) (.opt (.char isDecimal))

/-- A word that may be abbreviated. -/
def abbreviated (short rest : String) : Pattern := .seq (word short) (.opt (word rest))

/-- `\(?\s*cancelled\s*\)?` -/
def cancelled : Pattern :=
  .all [.opt (mark '('), spaces, word "cancelled", spaces, .opt (mark ')')]

/-- `\(SI\d+\)` -/
def siNumber : Pattern := .all [mark '(', word "SI", digits, mark ')']

/-- `/\s*walk-in\b` -/
def slashWalkIn (T : Unicode) : Pattern :=
  .seq (mark '/') (.all [spaces, word "walk-in", .ahead fun next => next.all fun c => !T.isWord c])

/-- The group of `DAY`. -/
def dayPlace : Pattern :=
  .any [word "BSU", word "SM", word "San Jose", .all [word "Sta", .opt (mark '.'), spaces, word "Cruz"],
    word "Tikme"]

/-- `DAY` after its group. -/
def dayRest : Pattern :=
  .all [.plus (.char fun c => isSpace c || c == '-'), word "Day", spaces, digits,
    .opt (.all [spaces, mark '&', spaces, digits])]

/-- The group of `DATED`. -/
def datedPlace : Pattern :=
  .any [.seq (word "Dairy Box") (.opt (word " Sales")), word "Tikme",
    .all [word "Kadiwa", .plus (.char fun c => isSpace c || c == '_' || c == '-'), word "DBM"]]

def monthName : Pattern :=
  .any [abbreviated "Jan" "uary", abbreviated "Feb" "ruary", abbreviated "Mar" "ch",
    abbreviated "Apr" "il", word "May", abbreviated "Jun" "e", abbreviated "Jul" "y",
    abbreviated "Aug" "ust", .seq (word "Sep") (.opt (abbreviated "t" "ember")),
    abbreviated "Oct" "ober", abbreviated "Nov" "ember", abbreviated "Dec" "ember"]

/-- `DATED` after its group. -/
def datedRest : Pattern :=
  .all [spaces1, monthName, .opt (mark '.'), spaces, dayOfMonth,
    .many (.all [spaces, .char fun c => c == '-' || c == ',', spaces, dayOfMonth]),
    .opt (.seq spaces1 (word "Sales"))]

/-- `ALA` -/
def ala : Pattern :=
  .all [word "Ala", spaces1, word "Eh", .opt (.seq spaces1 (.any [word "Batangas", word "Festival"])),
    .opt (.all [spaces1, abbreviated "Dec" "ember", .opt (mark '.'), spaces, dayOfMonth,
      .opt (.all [spaces, mark '-', spaces, dayOfMonth])]),
    .opt (.seq spaces1 (word "Sales"))]

/-! ## Tables -/

/-- `GROUPS` -/
def groups : List (String × List String) :=
  [("Ala Eh Festival", ["Ala Eh", "Ala Eh Batangas", "Ala Eh Festival"]),
   ("Dairy Box Sales", ["Dairy Box", "Dairy Box Sales"]),
   ("Tikme", ["Tikme"]),
   ("BSU", ["BSU"]),
   ("SM", ["SM"]),
   ("San Jose", ["San Jose"]),
   ("Sta. Cruz", ["Sta Cruz"]),
   ("Sta. Rosa", ["Sta Rosa"]),
   ("Sto. Tomas", ["Sto Tomas"]),
   ("Kadiwa-DBM", ["Kadiwa DBM"]),
   ("Kadiwa-BIR", ["Kadiwa BIR"]),
   ("Kadiwa-San Pedro", ["Kadiwa San Pedro"]),
   ("Kadiwa-Sta. Cruz", ["Kadiwa Sta Cruz"]),
   ("Kadiwa-Sta. Rosa", ["Kadiwa Sta Rosa"]),
   ("Bombay-Lipa", ["Bombay Lipa"]),
   ("Camsur", ["Cam Sur"]),
   ("MHO-Garcia", ["MHO Garcia"]),
   ("Members", ["Member's", "Member's Sales", "Members Sales", "Members"]),
   ("Staff Sales", ["Staff", "Staff Sales"]),
   ("Lito Ayson", ["Sir Lito Ayson", "Lito Ayson"]),
   ("Eat Plenty Food Corp", ["Eat Plenty", "Eat Plenty Food Corp"]),
   ("Jamie Ortiz", ["Jaime Ortiz", "Jamie Ortiz"]),
   ("Cassie Alagar", ["Cassie", "Cassie A.", "Cassie Alagar"]),
   ("Sir Sonny", ["Sonny", "Sir Sonny", "Sonny Bombay"]),
   ("Jonny Decena", ["Jhonny Decena", "Jonny Decena"])]

/-- `CUSTOMER_ALIASES` -/
def customerAliases : List (String × String) :=
  [("outlet", "Outlet Sales"),
   ("outletsales", "Outlet Sales"),
   ("skye", "Skye Dairy"),
   ("moo and moore", "Moo and More"),
   ("tri star batangas corp", "Tri Star"),
   ("arnold", "Arnold Berse"),
   ("lito", "Lito Ayson"),
   ("jamie", "Jamie Ortiz"),
   ("joseph c.", "Joseph Caguimbal"),
   ("wtc-svs", "WTC_SVS"),
   ("wtc-sj", "WTC_SJ"),
   ("wtc-a", "WTC_A"),
   ("azaad", "AZAAD"),
   ("azad", "AZAAD"),
   ("ouutlet sales", "Outlet Sales"),
   ("daiy box sales", "Dairy Box Sales"),
   ("moo an more", "Moo and More"),
   ("arnold besre", "Arnold Berse"),
   ("agrijoy", "Agri Joy"),
   ("eat plenty food corp.", "Eat Plenty Food Corp"),
   ("eat plenty fodd corp", "Eat Plenty Food Corp"),
   ("eat plemty food corp", "Eat Plenty Food Corp"),
   ("eat pelnty food corp", "Eat Plenty Food Corp"),
   ("eat plenty food", "Eat Plenty Food Corp"),
   ("wtc__svs", "WTC_SVS"),
   ("wtc_ svs", "WTC_SVS"),
   ("pcc -uplb", "PCC-UPLB"),
   ("milk feeding las pinas", "Milk Feeding-Las Pinas"),
   ("milk feeding-las pinas", "Milk Feeding-Las Pinas"),
   ("milk feeding dswd", "Milk Feeding-DSWD"),
   ("milk feedin-dswd", "Milk Feeding-DSWD"),
   ("milk feeding-dswd", "Milk Feeding-DSWD"),
   ("milk feeding-deped", "Milk Feeding-DEPED"),
   ("milk feeding rizal", "Milk Feeding-Rizal"),
   ("milk feeding-rizal", "Milk Feeding-Rizal"),
   ("kadiwa-sta.rosa", "Kadiwa-Sta. Rosa"),
   ("kadiwa sta.rosa", "Kadiwa-Sta. Rosa"),
   ("kadiwa sta rosa", "Kadiwa-Sta. Rosa"),
   ("kadiwa_lares", "Kadiwa-Lares"),
   ("kadiwa- alaminos", "Kadiwa-Alaminos"),
   ("kadiwa- lumban", "Kadiwa-Lumban")]

/-! ## Canonical names -/

/-- `clean_label`, which is also `' '.join(label.split())` -/
def cleanLabel (label : List Char) : List Char := collapse isSpace ' ' label

/-- `re.sub(r'\(?\s*cancelled\s*\)?', '', label, flags=re.I).strip(' -_/')` -/
def dropCancelled (label : List Char) : List Char :=
  trim (fun c => c == ' ' || c == '-' || c == '_' || c == '/') (cancelled.delete label)

/-- `re.sub(r'\(SI\d+\)', '', label, flags=re.I).strip()` -/
def dropNumber (label : List Char) : List Char := trim isSpace (siNumber.delete label)

section Names

variable (T : Unicode)

/-- `re.sub(r'/\s*walk-in\b', '', label, flags=re.I).strip()` -/
def dropWalkIn (label : List Char) : List Char := trim isSpace ((slashWalkIn T).delete label)

/-- `label.lower().startswith(start)` -/
def startsWith (start : String) (label : List Char) : Bool := start.toList.isPrefixOf (T.lower label)

def isOutlet (label : List Char) : Bool := startsWith T "outlet sales" label

def isWalkIn (label : List Char) : Bool := startsWith T "walk-in" label || startsWith T "walk in" label

/-- The entry of a casefolded label in `CUSTOMER_ALIASES`, if need be without final dots. -/
def aliasOf (label : List Char) : Option (List Char) :=
  let table := customerAliases.map fun entry => (entry.1.toList, entry.2.toList)
  (table.lookup (T.casefold label)).or
    (table.lookup ((T.casefold label).rdropWhile fun c => c == '.'))

/-- `formatting_key` -/
def formattingKey (label : List Char) : List Char :=
  T.casefold (label.filter fun c =>
    !(isSpace c || c == '.' || c == '_' || c == '(' || c == ')' || c == '-' || c.toNat == 0x27 ||
      c.toNat == 0x2019))

/-- `ALIASES`, in which later entries replace earlier ones. -/
def groupAliases : List (List Char × List Char) :=
  (groups.flatMap fun group => (group.1 :: group.2).map fun label =>
    (formattingKey T label.toList, group.1.toList)).reverse

def groupOf (label : List Char) : Option (List Char) :=
  (groupAliases T).lookup (formattingKey T label)

/-- The event that a label annotates with a day or a date. -/
def eventOf (label : List Char) : Option (List Char) :=
  (Pattern.group dayPlace dayRest label).or (Pattern.group datedPlace datedRest label)

/-- `consolidated_name` -/
def consolidatedName (label : List Char) : List Char :=
  let label := cleanLabel label
  if ala.fullMatch label then "Ala Eh Festival".toList
  else
    let label := (eventOf label).getD label
    (groupOf T label).getD label

/-- `canonical_customer` -/
def canonicalCustomer (raw : List Char) : Option (List Char) :=
  let label := cleanLabel raw
  if label = [] then none
  else
    let label := dropNumber (dropCancelled label)
    if label = [] then none
    else if isOutlet T label then some "Outlet Sales".toList
    else if isWalkIn T label then some "Walk-in".toList
    else
      let label := dropWalkIn T label
      some (consolidatedName T ((aliasOf T label).getD label))

/-- `customer_key` -/
def customerKey (raw : List Char) : Option (List Char) :=
  (canonicalCustomer T raw).bind fun name => if name = [] then none else some (T.casefold name)

end Names

end CustomerNames
end RosarioDairy
