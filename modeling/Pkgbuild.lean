import Pkgbuild.Base.BlockCode
import Pkgbuild.Base.Checked
import Pkgbuild.Base.Commands
import Pkgbuild.Base.Components
import Pkgbuild.Base.FileTree
import Pkgbuild.Base.Handles
import Pkgbuild.Base.RecordCode
import Pkgbuild.Base.SortContract
import Pkgbuild.Identity
import Pkgbuild.FieldStream
import Pkgbuild.Payload
import Pkgbuild.Provider
import Pkgbuild.Manifest
import Pkgbuild.Admission
import Pkgbuild.AdmissionSpec
import Pkgbuild.Request
import Pkgbuild.Result
import Pkgbuild.AdmissionAuthority
import Pkgbuild.AdmissionClosure
import Pkgbuild.AdmissionSlice
import Pkgbuild.RequestAgreement
import Pkgbuild.AdmissionRefusals
import Pkgbuild.Records
import Pkgbuild.RequestIdentity
import Pkgbuild.AdmissionCanonical
import Pkgbuild.ResultIdentity
import Pkgbuild.DigestOrder
import Pkgbuild.ManifestAnchors
import Pkgbuild.ManifestIdentity
import Pkgbuild.PayloadTree
import Pkgbuild.PayloadOrder
import Pkgbuild.ModelRefusals
import Pkgbuild.PathGrammar
import Pkgbuild.PathCanonical
import Pkgbuild.OpenSsl
import Pkgbuild.WriterObject
import Pkgbuild.WriterPool
import Pkgbuild.RecordHashing
import Pkgbuild.Base.OrderedTable
import Pkgbuild.Provenance
import Pkgbuild.Containers
import Pkgbuild.OnOpenSsl
import Pkgbuild.Reproducibility
import Pkgbuild.Descriptions
import Pkgbuild.AdmissionEdits
