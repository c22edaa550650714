import ChatDice.Main
import ChatDice.Proofs.CommandLine.Logging
import ChatDice.Proofs.CommandLine.Rolls
import ChatDice.Proofs.CommandLine.Shell
import ChatDice.Proofs.Dice.Account
import ChatDice.Proofs.Dice.Calls
import ChatDice.Proofs.Dice.Joining
import ChatDice.Proofs.Dice.Meaning
import ChatDice.Proofs.Dice.Notation
import ChatDice.Proofs.Dice.Plan
import ChatDice.Proofs.Dice.ShownNotation
import ChatDice.Proofs.Dice.SuccessRoll
import ChatDice.Proofs.Game.Account
import ChatDice.Proofs.Game.Answers
import ChatDice.Proofs.Game.Check
import ChatDice.Proofs.Game.CheckCommand
import ChatDice.Proofs.Game.Difficulty
import ChatDice.Proofs.Game.Endings
import ChatDice.Proofs.Game.Gate
import ChatDice.Proofs.Game.NinjaSlayer
import ChatDice.Proofs.Game.NormalCheck
import ChatDice.Proofs.Game.OneLine
import ChatDice.Proofs.Game.Record
import ChatDice.Proofs.Game.Remarks
import ChatDice.Proofs.Game.Rendering
import ChatDice.Proofs.Game.Secret
import ChatDice.Proofs.Game.Session
import ChatDice.Proofs.Settings.Members
import ChatDice.Proofs.Settings.Precedence
import ChatDice.Proofs.Text.UpperCase
import ChatDice.Random.Replay
import ChatDice.Settings.Cache
import ChatDice.Text.Cased
import ChatDice.Text.Double.Shortest
import ChatDice.Text.Json.Shown
import ChatDice.Text.LowerCase
import ChatDice.Proofs.Dice.Limit
import ChatDice.Proofs.Dice.DiceTable
import ChatDice.Proofs.Text.Printable
import ChatDice.Proofs.CommandLine.LogLines
import ChatDice.Proofs.CommandLine.SetUp
import ChatDice.Proofs.Dice.Decimal
import ChatDice.Proofs.Settings.Cache
import ChatDice.Proofs.Text.Pattern
import ChatDice.Proofs.Game.Starts
