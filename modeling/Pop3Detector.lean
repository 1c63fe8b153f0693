import Pop3Detector.Bytes
import Pop3Detector.State
import Pop3Detector.Patterns
import Pop3Detector.Greeting
import Pop3Detector.Server
import Pop3Detector.Pop3ClientDetector
import Pop3Detector.Pop3ServiceDetector
import Pop3Detector.Session
import Pop3Detector.Login
import Pop3Detector.Dispatch
import Pop3Detector.ClientStates
import Pop3Detector.ServiceReport
import Pop3Detector.Segmentation
import Pop3Detector.ClientBounds
import Pop3Detector.Responses
import Pop3Detector.Capture
import Pop3Detector.Version
import Pop3Detector.Callers
import Pop3Detector.Extraction
import Pop3Detector.Body
import Pop3Detector.Vendors
import Pop3Detector.Subtypes
import Pop3Detector.ClientRecord
