import EnvTemplate.FileTree.Edit
import EnvTemplate.Main
import EnvTemplate.Proofs.FailedRun
import EnvTemplate.Proofs.History
import EnvTemplate.Proofs.Reload
import EnvTemplate.Proofs.ReadBack
import EnvTemplate.Proofs.Characters
import EnvTemplate.Proofs.KeptValue
import EnvTemplate.Proofs.Simulation
import EnvTemplate.Proofs.Preview
import EnvTemplate.Proofs.ChainFormat
import EnvTemplate.Proofs.Execution
import EnvTemplate.Proofs.Influence
import EnvTemplate.Proofs.EntryLines
import EnvTemplate.Proofs.DeclarationOrder
import EnvTemplate.Proofs.RefusalLines
import EnvTemplate.Proofs.JsonText
import EnvTemplate.Proofs.Redaction
import EnvTemplate.Proofs.CacheWrite
import EnvTemplate.Proofs.Registration
import EnvTemplate.Proofs.CacheBlindness
import EnvTemplate.Proofs.ExitCodes
import EnvTemplate.Proofs.NormalForm
import EnvTemplate.Proofs.ExactInteger
import EnvTemplate.Proofs.Composition
import EnvTemplate.Proofs.TextUpdate
import EnvTemplate.Proofs.TableLayout
import EnvTemplate.Proofs.TrimmedValue
