import UploadInbox.Text.Basic

/-!
# Request methods

The four methods that the inbox treats in ways of their own, and every other name that a request
line may carry. Names are tokens and their case counts.
-/
namespace UploadInbox

def isTokenChar (c : Char) : Bool :=
  c.isAlphanum || c = '!' || c = '#' || c = '$' || c = '%' || c = '&' || c = '\'' || c = '*'
    || c = '+' || c = '-' || c = '.' || c = '^' || c = '_' || c.toNat = 0x60 || c = '|' || c = '~'

def isToken (t : Text) : Bool := !t.isEmpty && t.all isTokenChar

theorem isTokenChar_toLower {c : Char} (h : isTokenChar c = true) :
    isTokenChar c.toLower = true := by
  by_cases capital : 65 ≤ c.toNat ∧ c.toNat ≤ 90
  · have small : 97 ≤ c.toLower.toNat ∧ c.toLower.toNat ≤ 122 := by
      rw [Text.toNat_toLower, if_pos capital]
      omega
    have lower : c.toLower.isLower = true :=
      Bool.and_eq_true_iff.mpr ⟨decide_eq_true small.1, decide_eq_true small.2⟩
    have letter : c.toLower.isAlphanum = true := by
      change ((c.toLower.isUpper || c.toLower.isLower) || c.toLower.isDigit) = true
      rw [lower, Bool.or_true, Bool.true_or]
    simp only [isTokenChar, letter, Bool.true_or]
  · have same : c.toLower = c := by
      rw [← Char.toNat_inj, Text.toNat_toLower, if_neg capital]
    rwa [same]

theorem isToken_lowerAscii {t : Text} (h : isToken t = true) :
    isToken (Text.lowerAscii t) = true := by
  simp only [isToken, Bool.and_eq_true, List.all_eq_true] at *
  refine ⟨by simpa [Text.lowerAscii] using h.1, ?_⟩
  intro c member
  obtain ⟨d, inside, rfl⟩ := List.mem_map.mp member
  exact isTokenChar_toLower (h.2 d inside)

/-- Whether a text names a method that is not told apart from others. -/
def Method.isOtherName (t : Text) : Bool :=
  isToken t && !(["GET", "PUT", "POST", "DELETE"] : List Text).contains t

inductive Method where
  | get | put | post | delete
  /-- Any other method, by name. -/
  | other (name : Text) (isOther : Method.isOtherName name = true)
  deriving DecidableEq, Repr

namespace Method

def name : Method → Text
  | get => "GET"
  | put => "PUT"
  | post => "POST"
  | delete => "DELETE"
  | other name _ => name

/-- The method of a name, if the name is a token. -/
def ofName? (t : Text) : Option Method :=
  if t = "GET" then some get
  else if t = "PUT" then some put
  else if t = "POST" then some post
  else if t = "DELETE" then some delete
  else if h : isOtherName t then some (other t h)
  else none

@[simp] theorem ofName?_name (m : Method) : ofName? m.name = some m := by
  cases m with
  | get => rfl
  | put => rfl
  | post => rfl
  | delete => rfl
  | other name isOther =>
    have apart := isOther
    simp only [isOtherName, Bool.and_eq_true, Bool.not_eq_true', List.contains_eq_mem,
      decide_eq_false_iff_not, List.mem_cons, not_or] at apart
    change ofName? name = some (.other name isOther)
    simp only [ofName?, apart, if_false]
    exact dif_pos isOther

/-- Whether requests of a method store an object. -/
def isUpload (m : Method) : Bool := m = put || m = post

end Method
end UploadInbox
