import TrickLedger.Balance.Leaderboard
import TrickLedger.Output.Json

/-!
# Structured reports

Verdicts, sheets and standings as structured values.
-/

namespace TrickLedger.Output

/-- A commitment with all its marks. -/
def commitmentJson (commitment : Commitment) : Json :=
  .object [
    ("solo_parity", .bool commitment.soloParity),
    ("base_payment", .bool commitment.basePayment),
    ("win", .bool commitment.won),
    ("boost", .number commitment.boost),
    ("contract", .optional (commitment.contract.map Contract.identifier)),
    ("score", .number commitment.score)]

/-- A play with both commitments. -/
def playJson (play : Play) : Json :=
  .object [
    ("base", commitmentJson play.base),
    ("link", commitmentJson play.link),
    ("trump_doubled", .bool play.betterSuit),
    ("comment", .optional play.comment)]

/-- The verdict on a play code. A rejected play has no values. -/
def verdictJson : Verdict → Json
  | .accepted play worth =>
      .object [
        ("accepted", .bool true),
        ("own_value", .number worth.own),
        ("enemy_value", .number worth.opponent),
        ("comment", .optional worth.comment),
        ("error_message", .string ""),
        ("labels", .list (play.spokenNames.map .string)),
        ("record", playJson play)]
  | .rejected fault =>
      .object [
        ("accepted", .bool false),
        ("own_value", .number 0),
        ("enemy_value", .number 0),
        ("comment", .null),
        ("error_message", .string fault.message),
        ("labels", .list []),
        ("record", .null)]

/-- A player with the plays as written. -/
def memberJson (member : Member) : Json :=
  .object [
    ("name", .string member.name),
    ("start", .number member.start),
    ("plays", .list (member.plays.map fun play =>
      .object [("spec", .string play.code), ("start", .number play.start)]))]

/-- A whole sheet. -/
def sheetJson (sheet : Sheet) : Json :=
  .object [
    ("date", .optional (sheet.date.map Date.text)),
    ("raw_date", .string sheet.rawDate),
    ("place", .string sheet.place),
    ("options", .list (sheet.settings.map fun setting =>
      .object [("text", .string setting.text), ("offset", .number setting.start)])),
    ("scoring", .object [
      ("hundred_rule", .string sheet.rules.hundred.word),
      ("stake_multiplier", .number sheet.rules.stake)]),
    ("groups", .list (sheet.groups.map fun group =>
      .object [("players", .list (group.members.map memberJson))]))]

/-- The standing of a player. -/
def standingJson (standing : Standing) : Json :=
  .object [
    ("name", .string standing.name),
    ("balance", .number standing.balance),
    ("indexes", .number standing.sheets)]

/-- The balances of a group, each a list of the name and the amount. -/
def balancesJson (rows : List (String × Int)) : Json :=
  .list (rows.map fun (name, amount) => .list [.string name, .number amount])

end TrickLedger.Output
