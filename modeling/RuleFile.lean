import RuleFile.Main
import RuleFile.Proofs.Building
import RuleFile.Proofs.Calls
import RuleFile.Proofs.Concatenation
import RuleFile.Proofs.Consumption
import RuleFile.Proofs.Effects
import RuleFile.Proofs.Expanding
import RuleFile.Proofs.Files
import RuleFile.Proofs.LastLine
import RuleFile.Proofs.LineEndings
import RuleFile.Proofs.ReadBack
import RuleFile.Proofs.Spacing
import RuleFile.Proofs.Strictness
import RuleFile.Proofs.Writers
import RuleFile.Proofs.WrittenTokens
