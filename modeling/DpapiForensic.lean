import DpapiForensic.Proof.ArtifactGrammar
import DpapiForensic.Proof.BadMasterKey
import DpapiForensic.Proof.BrowserRoundTrip
import DpapiForensic.Proof.Builds
import DpapiForensic.Proof.CredentialRoundTrip
import DpapiForensic.Proof.HexAgreement
import DpapiForensic.Proof.Locked
import DpapiForensic.Proof.Lossless
import DpapiForensic.Proof.MasterKeyRecovery
import DpapiForensic.Proof.OneKey
import DpapiForensic.Proof.OutputSize
import DpapiForensic.Proof.PanicFree
import DpapiForensic.Proof.Report
import DpapiForensic.Proof.SignedRegion
import DpapiForensic.Proof.Slack
import DpapiForensic.Proof.Text
import DpapiForensic.Proof.Truncation
import DpapiForensic.Proof.VaultIv
import DpapiForensic.Proof.VaultSilence
import DpapiForensic.Proof.VcrdMap
import DpapiForensic.Proof.WifiRoundTrip
import DpapiForensic.Proof.Workflow
