import ThanosOperator.Kube.Meta
import ThanosOperator.Kube.Objects
import ThanosOperator.Kube.Client
import ThanosOperator.Kube.Watch
import ThanosOperator.Interfaces
import ThanosOperator.Query.Endpoints
import ThanosOperator.Query.Watch
import ThanosOperator.Apply
import ThanosOperator.Converge
import ThanosOperator.Query.Reconcile
import ThanosOperator.Receive.Hashring
import ThanosOperator.Receive.Reconcile
import ThanosOperator.Receive.Watch
import ThanosOperator.Receive.Controller
import ThanosOperator.Operator
import ThanosOperator.Receive.Converge
