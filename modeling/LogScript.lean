import LogScript.Command.Files
import LogScript.Main
import LogScript.Proofs.Conversion
import LogScript.Proofs.Numbering
import LogScript.Proofs.Checks
import LogScript.Proofs.Compilation
import LogScript.Proofs.Delimited
import LogScript.Proofs.Containment
import LogScript.Proofs.Likeness
import LogScript.Proofs.UniqueReading
import LogScript.Proofs.NumberSpelling
import LogScript.Proofs.Runs
import LogScript.Proofs.StringSpelling
import LogScript.Proofs.TokenSpelling
import LogScript.Proofs.JsonValue
import LogScript.Proofs.Records
import LogScript.Proofs.Schema
import LogScript.Proofs.WrittenForms
import LogScript.Proofs.OptionObject
import LogScript.Proofs.Blame
import LogScript.Proofs.Chronicle
import LogScript.Proofs.Resolution
import LogScript.Proofs.FileWriting
import LogScript.Proofs.CommandLines
import LogScript.Proofs.Commands
import LogScript.Proofs.LiteralReading
import LogScript.Proofs.AddressForm
import LogScript.Proofs.RootedPath
import LogScript.Proofs.Assembly
import LogScript.Proofs.JoinedNames
import LogScript.Proofs.Entities
import LogScript.Proofs.Decimals
import LogScript.Proofs.Severities
import LogScript.Proofs.ScalarTexts
