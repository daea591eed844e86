import AgreementAudit.Execution
import AgreementAudit.Main
import AgreementAudit.Proofs.BrokenRounds
import AgreementAudit.Proofs.CrashTolerance
import AgreementAudit.Proofs.EventLog
import AgreementAudit.Proofs.FirstWitness
import AgreementAudit.Proofs.FreeWriting
import AgreementAudit.Proofs.GenerateThenCheck
import AgreementAudit.Proofs.GeneratedFiles
import AgreementAudit.Proofs.HeaderLines
import AgreementAudit.Proofs.InputSelection
import AgreementAudit.Proofs.LeavingOut
import AgreementAudit.Proofs.LineEndings
import AgreementAudit.Proofs.DirectoryMaking
import AgreementAudit.Proofs.LogReading
import AgreementAudit.Proofs.MessageWording
import AgreementAudit.Proofs.OutputModes
import AgreementAudit.Proofs.ProcessOrder
import AgreementAudit.Proofs.ReportDocument
import AgreementAudit.Proofs.RoundChain
import AgreementAudit.Proofs.ValueLines
import AgreementAudit.Proofs.Warnings
import AgreementAudit.Proofs.SeededFiles
import AgreementAudit.Proofs.GenerationFrame
import AgreementAudit.Proofs.DiscoveredFiles
import AgreementAudit.Proofs.Touching
import AgreementAudit.Proofs.BufferedWriting
import AgreementAudit.Proofs.ConfigWriting
import AgreementAudit.Proofs.LogSetting
import AgreementAudit.Proofs.PatternReading
