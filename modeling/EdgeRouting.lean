import EdgeRouting.Main
import EdgeRouting.Proofs.Obligations
import EdgeRouting.Proofs.IngressObligations
import EdgeRouting.Proofs.TranscriptDiscipline
import EdgeRouting.Proofs.DependencyCompleteness
import EdgeRouting.Proofs.ReferenceTracking
import EdgeRouting.Proofs.IndexChanges
import EdgeRouting.Proofs.RetriggerSoundness
import EdgeRouting.Proofs.ClusterCollisions
import EdgeRouting.Proofs.TlsMirror
import EdgeRouting.Proofs.TlsContextRoundTrip
import EdgeRouting.Proofs.Authorization
import EdgeRouting.Proofs.BackendEncryption
import EdgeRouting.Proofs.ReferentialIntegrity
import EdgeRouting.Proofs.VisibilityPartition
import EdgeRouting.Proofs.ConfigurationSwitches
import EdgeRouting.Proofs.IngressRoundTrip
import EdgeRouting.Proofs.InForce
import EdgeRouting.Proofs.LastWrites
import EdgeRouting.Proofs.LiveReferences
import EdgeRouting.Proofs.ResourceLoading
import EdgeRouting.Proofs.ProgramResources
import EdgeRouting.Proofs.ClusterMembers
import EdgeRouting.Proofs.RouteListing
import EdgeRouting.Proofs.DropPrecedence
import EdgeRouting.Proofs.ListLoading
import EdgeRouting.Proofs.DropRoutesAnnotation
import EdgeRouting.Proofs.HostIdentity
import EdgeRouting.Proofs.UnsetParts
import EdgeRouting.Proofs.Base64Canonical
import EdgeRouting.Proofs.CertificateMaterial
import EdgeRouting.Proofs.SettingPrecedence
import EdgeRouting.Proofs.ConfigurationDisplay
