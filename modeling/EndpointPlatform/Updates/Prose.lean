import EndpointPlatform.Updates.Model

/-!
# Public prose

The character and pattern tests of `validate_public_update_prose`, which decide what reasons an
administrator may attach to a rollout. `str.isalnum` is a parameter, as its Unicode tables belong to
the language; what is asked of it is stated where it is used.
-/

namespace EndpointPlatform.Updates

def safeProsePunctuation : List Char := " .,:;()!?&#+%'-–—".toList

/-- `_OPAQUE_32_BYTE_SECRET.search`: a run of 43 base64url characters. -/
def hasOpaqueSecret (text : List Char) : Bool :=
  text.tails.any fun rest =>
    43 ≤ (rest.takeWhile fun c => asciiAlnum c || c == '_' || c == '-').length

/-- A character as a pattern with the ignore-case flag compares it: ASCII letters lose their case,
and four letters outside ASCII stand for the ASCII letter they fold to. -/
def foldCase (c : Char) : Char :=
  if 'A' ≤ c ∧ c ≤ 'Z' then Char.ofNat (c.toNat + 32)
  else if c.toNat = 0x130 ∨ c.toNat = 0x131 then 'i'
  else if c.toNat = 0x17F then 's'
  else if c.toNat = 0x212A then 'k'
  else c

/-- A part of a diagnostic marker: fixed letters, or separators between two words. -/
inductive MarkerPart where
  /-- Fixed characters. -/
  | word (letters : List Char)
  /-- `[ ._-]+`. -/
  | gap
  deriving Repr, DecidableEq

/-- What follows a part at the start of a text. Separators are all taken, since no letter that
follows them is one. -/
def matchPart : MarkerPart → List Char → Option (List Char)
  | .word letters, text =>
    if (text.take letters.length).map foldCase = letters then some (text.drop letters.length)
    else none
  | .gap, text =>
    let rest := text.dropWhile fun c => " ._-".toList.contains c
    if rest.length < text.length then some rest else none

/-- What follows a sequence of parts at the start of a text. -/
def matchParts : List MarkerPart → List Char → Option (List Char)
  | [], text => some text
  | part :: parts, text => (matchPart part text).bind (matchParts parts)

/-- The words that may not stand alone. -/
def markerWords : List String :=
  ["token", "secret", "bearer", "authorization", "password", "cookie", "log", "logs", "trace",
    "traceback", "stacktrace", "pending", "archive", "stdout", "stderr"]

/-- The pairs of words that may not follow each other. -/
def markerPairs : List (String × String) :=
  [("access", "token"), ("log", "output"), ("stack", "trace"), ("pending", "update")]

def markerEndings : List String := [".zip", ".tar.gz", ".tgz", ".7z"]

def wordMarkers : List (List MarkerPart) :=
  markerWords.map (fun w => [.word w.toList]) ++
    markerPairs.map fun w => [.word w.1.toList, .gap, .word w.2.toList]

/-- `_DIAGNOSTIC_MARKER.search`, with the character before the text. Every marker ends in a letter
or digit, so its end is a word boundary when no word character follows. -/
def hasDiagnosticMarker (isalnum : Char → Bool) : Option Char → List Char → Bool
  | _, [] => false
  | before, c :: text =>
    let boundary := fun o : Option Char => o.all fun d => !(isalnum d || d == '_')
    let here := fun parts => (matchParts parts (c :: text)).any fun rest => boundary rest.head?
    boundary before && wordMarkers.any here ||
      markerEndings.any (fun ending => here [.word ending.toList]) ||
      hasDiagnosticMarker isalnum (some c) text

/-- The tests of `validate_public_update_prose` on a text of admissible length, without newlines.
Of the blanks `strip` removes only the space is an admissible character. -/
def publicProse (isalnum : Char → Bool) (value : String) : Bool :=
  let text := value.toList
  (text.all fun c => isalnum c || safeProsePunctuation.contains c) &&
    text.head? != some ' ' && text.getLast? != some ' ' &&
    !hasOpaqueSecret text && !hasDiagnosticMarker isalnum none text

theorem newline_not_mem_of_publicProse {isalnum : Char → Bool} {value : String}
    (hnewline : isalnum '\n' = false) (h : publicProse isalnum value = true) :
    '\n' ∉ value.toList := by
  intro hmem
  simp only [publicProse, Bool.and_eq_true, List.all_eq_true] at h
  have hallowed := h.1.1.1.1 '\n' hmem
  rw [hnewline, Bool.false_or] at hallowed
  exact absurd hallowed (by decide)

example : publicProse asciiAlnum "hotfix for printers (batch 2)" = true := by decide
example : publicProse asciiAlnum "see the agent log" = false := by decide

end EndpointPlatform.Updates
