import TrickLedger.Money
import TrickLedger.Play.Basic
import TrickLedger.Play.Comment
import TrickLedger.Play.Fault
import TrickLedger.Text.Blank

/-!
# Reading play codes

A play code such as `$:-3k70-s*{tahle sedla!}` is read from left to right. Each
rule takes the longest text it can use and returns what is left. The values of
a play are no concern of its reading.
-/

namespace TrickLedger.Play

/-- A dollar marks solo parity, and a colon after it marks base payment. -/
def readParity : List Char → Except PlayFault (Commitment × List Char)
  | '$' :: ':' :: rest => .ok ({ soloParity := true, basePayment := true }, rest)
  | '$' :: rest => .ok ({ soloParity := true }, rest)
  | ':' :: _ => .error .paymentWithoutParity
  | text => .ok ({}, text)

/-- A plus sign marks a won commitment, a minus sign a lost one. -/
def readSign? : List Char → Option (Bool × List Char)
  | '+' :: rest => some (true, rest)
  | '-' :: rest => some (false, rest)
  | _ => none

/-- A single digit up to the greatest boost; no digit means no boost. -/
def readBoost : List Char → Nat × List Char
  | '1' :: rest => (1, rest)
  | '2' :: rest => (2, rest)
  | '3' :: rest => (3, rest)
  | '4' :: rest => (4, rest)
  | text => (0, text)

/-- The minus sign of a score, if it has one. -/
def readMinus : List Char → Bool × List Char
  | '-' :: rest => (true, rest)
  | text => (false, text)

/-- The score of a hand: an optional minus sign and all digits that follow. The
numeral has to fit an amount before its range is looked at. -/
def readScore (text : List Char) : Except PlayFault (Int × List Char) :=
  let (negative, text) := readMinus text
  let digits := text.takeWhile Char.isDigit
  let rest := text.dropWhile Char.isDigit
  if digits.isEmpty then .error .missingScore
  else match Text.readDigits Money.greatest.toNat digits with
    | none => .error .scoreOutOfRange
    | some size =>
        let score : Int := if negative then -(size : Int) else size
        if score < leastScore ∨ greatestScore < score then .error .scoreOutOfRange
        else if score % 10 ≠ 0 then .error .scoreNotMultipleOfTen
        else .ok (score, rest)

/-- The contract whose keyword can open a play. -/
def readBaseContract? : List Char → Option (Contract × List Char)
  | 's' :: rest => some (.seven, rest)
  | 'k' :: rest => some (.hundred, rest)
  | 'c' :: rest => some (.betl, rest)
  | 'd' :: rest => some (.durch, rest)
  | 'm' :: 'c' :: rest => some (.majklBetl, rest)
  | 'm' :: 's' :: 'c' :: rest => some (.majklSuperBetl, rest)
  | 'v' :: rest => some (.twoSevens, rest)
  | _ => none

/-- A seven is always played together with the game or a silent hundred. -/
def readLinkOfSeven (text : List Char) : Except PlayFault (Commitment × List Char) := do
  let (link, text) ← readParity text
  match readSign? text with
  | none => .error .missingGameAfterSeven
  | some (won, text) =>
      let (boost, text) := readBoost text
      match text with
      | 'h' :: rest => .ok ({ link with won, boost, contract := some .game }, rest)
      | 't' :: rest =>
          let (score, rest) ← readScore rest
          .ok ({ link with won, boost, contract := some .silentHundred, score }, rest)
      | _ => .error .missingGameAfterSeven

/-- A hundred may be followed by a silent seven, which has no boost, or by a
seven. Without a sign there is no link, but its parity marks are kept. -/
def readLinkOfHundred (text : List Char) : Except PlayFault (Commitment × List Char) := do
  let (link, text) ← readParity text
  match readSign? text with
  | none => .ok (link, text)
  | some (won, 'n' :: rest) => .ok ({ link with won, contract := some .silentSeven }, rest)
  | some (won, text) =>
      let (boost, text) := readBoost text
      match text with
      | 's' :: rest => .ok ({ link with won, boost, contract := some .seven }, rest)
      | _ => .error .unknownLinkOfHundred

/-- Two sevens may be followed by a hundred. Without a sign there is no link,
but its parity marks are kept. -/
def readLinkOfTwoSevens (text : List Char) : Except PlayFault (Commitment × List Char) := do
  let (link, text) ← readParity text
  match readSign? text with
  | none => .ok (link, text)
  | some (won, text) =>
      let (boost, text) := readBoost text
      match text with
      | 'k' :: rest =>
          let (score, rest) ← readScore rest
          .ok ({ link with won, boost, contract := some .hundred, score }, rest)
      | _ => .error .missingHundredAfterSevens

/-- The score after the keyword of a base contract, where it takes one. -/
def readBaseScore (contract : Contract) (text : List Char) : Except PlayFault (Int × List Char) :=
  if contract = .hundred then readScore text else .ok (defaultScore, text)

/-- The link after a base contract, where it takes one. -/
def readLink (contract : Contract) (text : List Char) :
    Except PlayFault (Commitment × List Char) :=
  match contract with
  | .seven => readLinkOfSeven text
  | .hundred => readLinkOfHundred text
  | .twoSevens => readLinkOfTwoSevens text
  | _ => .ok ({}, text)

/-- The base commitment and the commitment linked to it. -/
def readCommitments (text : List Char) : Except PlayFault (Play × List Char) := do
  let (base, text) ← readParity text
  match readSign? text with
  | none => .error .missingSign
  | some (won, text) =>
      let (boost, text) := readBoost text
      match readBaseContract? text with
      | none => .error .unknownBase
      | some (contract, text) =>
          let (score, text) ← readBaseScore contract text
          let (link, text) ← readLink contract text
          .ok ({ base := { base with won, boost, contract := some contract, score }, link }, text)

/-- Nothing may follow a play, it needs a base contract, and a link with solo
parity needs a contract too. -/
def finish (play : Play) (rest : List Char) : Except PlayFault Play :=
  if !rest.isEmpty then .error .trailingCharacters
  else if play.base.value = 0 then .error .missingBase
  else if play.link.soloParity ∧ play.link.value = 0 then .error .incompleteLink
  else .ok play

/-- An asterisk after the commitments marks the better suit. -/
def readBetterSuit (play : Play) (rest : List Char) : Except PlayFault Play :=
  match rest with
  | '*' :: rest =>
      if play.base.contract.any Contract.allowsBetterSuit then
        finish { play with betterSuit := true } rest
      else .error .betterSuitNotAllowed
  | _ => finish play rest

/-- The fault that a whole body names. -/
def readFault? : List Char → Option Contract
  | ['e'] => some .fold
  | ['r', '1'] => some .minorFault
  | ['r', '2'] => some .majorFault
  | _ => none

/-- The play that a body without comment stands for. -/
def ofBody (body : List Char) : Except PlayFault Play :=
  match readFault? body with
  | some contract => .ok { base := .ofFault contract }
  | none => do
      let (play, rest) ← readCommitments body
      readBetterSuit play rest

/-- The play that a play code stands for. Blanks around the code are ignored. -/
def ofCode (code : String) : Except PlayFault Play := do
  let (body, comment) := cutComment (Text.trim code.toList)
  let play ← ofBody body
  .ok { play with comment := comment.map String.ofList }

end TrickLedger.Play
