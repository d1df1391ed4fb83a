import Earth2Sandbox.Framework.Dialogue
import Earth2Sandbox.Framework.Json
import Earth2Sandbox.Runtime.Bytes
import Mathlib.Data.List.Infix

/-!
# HTTP requests and the strings around them

What the hosted client sees of `httpx`: a request with its headers, and a response with its
status, headers, bytes, parsed JSON body and text, or an `httpx.HTTPError`.  Redirects are
followed inside a request that asks for it and are not seen.

The digest of `hashlib` and `str` of a JSON value are parameters, the class `Library`.
-/

namespace Earth2Sandbox

/-- The form of a hexadecimal SHA-256 digest. -/
def isHexDigest (s : String) : Bool :=
  s.toList.length = 64 && s.toList.all fun c => c.isDigit || ('a' ≤ c && c ≤ 'f')

/-- Library functions that no result depends on but through their equality. -/
class Library where
  /-- `sha256(content).hexdigest()`. -/
  sha256 : Bytes → String
  isHexDigest_sha256 : ∀ content, isHexDigest (sha256 content) = true
  /-- `str(value)` of a JSON value. -/
  str : Json → String
  str_str : ∀ s, str (.str s) = s
  /-- `s.upper()`. -/
  upper : String → String

/-- The digest that `Library.ofDigests` gives a content it does not know. -/
def unknownDigest : String := String.ofList (List.replicate 64 '0')

lemma noDigests_ok : (([] : List (Bytes × String)).all fun d => isHexDigest d.2) = true := rfl

/-- The digests of the listed contents, and the upper case of ASCII letters. -/
@[reducible] def Library.ofDigests (digests : List (Bytes × String))
    (hdigests : (digests.all fun d => isHexDigest d.2) = true := by
      first | exact noDigests_ok | decide +kernel) : Library where
  sha256 content := (digests.lookup content).getD unknownDigest
  isHexDigest_sha256 content := by
    cases hlookup : digests.lookup content with
    | none =>
      change isHexDigest unknownDigest = true
      decide +kernel
    | some digest =>
      obtain ⟨front, back, hmem, -⟩ := List.lookup_eq_some_iff.mp hlookup
      refine List.all_eq_true.mp hdigests (content, digest) ?_
      rw [hmem]
      exact List.mem_append_right _ List.mem_cons_self
  str
    | .str s => s
    | _ => ""
  str_str _ := rfl
  upper s := String.ofList (s.toList.map Char.toUpper)

/-! ## Strings -/

/-- `s.rstrip("/")`. -/
def rstripSlash (s : String) : String :=
  String.ofList (s.toList.reverse.dropWhile (· = '/')).reverse

/-- `needle in s`. -/
def containsText (s needle : String) : Bool := needle.toList <:+: s.toList

/-- `s.startswith(start)`. -/
def startsWithText (s start : String) : Bool := start.toList <+: s.toList

/-- `s.lower()` as far as ASCII letters go. -/
def lowerText (s : String) : String := String.ofList (s.toList.map Char.toLower)

/-- `s[:n]`. -/
def truncateText (s : String) (n : ℕ) : String := String.ofList (s.toList.take n)

/-- The characters for which `str.isspace` holds. -/
def isSpace (c : Char) : Bool :=
  (9 ≤ c.val && c.val ≤ 13) || (28 ≤ c.val && c.val ≤ 32) || (0x2000 ≤ c.val && c.val ≤ 0x200a) ||
    c.val ∈ [0x85, 0xa0, 0x1680, 0x2028, 0x2029, 0x202f, 0x205f, 0x3000]

/-- `s.strip()`. -/
def stripText (s : String) : String :=
  String.ofList ((s.toList.dropWhile isSpace).reverse.dropWhile isSpace).reverse

/-- `s.split(",")`. -/
def splitComma (s : String) : List String := (s.toList.splitOn ',').map String.ofList

/-- `x or y` of optional strings, which treats the empty string as absent. -/
def orText : Option String → Option String → Option String
  | some s, y => if s = "" then y else some s
  | none, y => y

@[simp] lemma orText_none (y : Option String) : orText none y = y := rfl

lemma orText_eq_none {x y : Option String} (h : orText x y = none) : y = none := by
  cases x with
  | none => exact h
  | some s =>
    by_cases hs : s = ""
    · simpa [orText, hs] using h
    · simp [orText, hs] at h

/-! ## Messages -/

inductive HttpMethod where
  | get
  | post
  deriving DecidableEq

/-- A request of an `httpx.AsyncClient`; `json` is the body of a POST. -/
structure HttpRequest (Payload : Type) where
  method : HttpMethod
  url : String
  headers : List (String × String) := []
  json : Option Payload := none
  followRedirects : Bool := false

/-- The request carries credentials. -/
def HttpRequest.authorized {Payload : Type} (request : HttpRequest Payload) : Bool :=
  request.headers.any fun header => lowerText header.1 = "authorization"

/-- A response; the names of its headers are in lower case, and `json` is what `response.json()`
returns, `none` when it raises a `ValueError`. -/
structure HttpResponse where
  statusCode : ℕ
  headers : List (String × String) := []
  content : Bytes := []
  json : Option Json := none
  text : String := ""

namespace HttpResponse

/-- `response.headers.get(name)`: the values under the name, joined. -/
def header (response : HttpResponse) (name : String) : Option String :=
  match (response.headers.filter (·.1 = name)).map (·.2) with
  | [] => none
  | values => some (", ".intercalate values)

def isSuccess (response : HttpResponse) : Bool :=
  200 ≤ response.statusCode && response.statusCode ≤ 299

end HttpResponse

/-- An `httpx.HTTPError`. -/
structure HttpError where
  typeName : String
  message : String

end Earth2Sandbox
